import PolicyRollout.Cli.Deploy
/-!
The command that shows published templates: one by its id, or all of a listing.
-/
namespace PolicyRollout.Cli

open Http (Client)

def templateText (t : TemplateDescriptor) : String :=
  let title := t.id ++ " - " ++ t.name ++ " [" ++ t.category ++ "]\n"
  let description := if t.description.isEmpty then "" else "    " ++ t.description ++ "\n"
  let required := match t.requiredVariables with
    | [] => ""
    | names => "    required: " ++ ", ".intercalate names ++ "\n"
  title ++ description ++ required

def showTemplate (client : Client) (timeout : Nat) (id : String) : Dialogue :=
  .ask timeout (client.templateRequest? id) fun exchange =>
    match client.template id exchange with
    | .error source => .fail (.platform source)
    | .ok template => .say (templateText template) (.stop .success)

def showListing (client : Client) (timeout : Nat) (category : Option String)
    (tags : List String) : Dialogue :=
  let call : Call := .list category tags
  .ask timeout (client.request? call) fun exchange =>
    let reply : Reply (List TemplateDescriptor) := client.answer exchange call
    .recordAll reply.notes <| match reply.result with
      | .error source => .fail (.platform source)
      | .ok templates => .record (.templatesFound templates.length) <|
        templates.foldr (fun t next => .say (templateText t) next) (.stop .success)

def showTemplates (lookup : String → Option String) (a : TemplatesArguments) : Dialogue :=
  withSettings lookup fun settings =>
    withClient settings.service fun client =>
      match a.id with
      | some id => showTemplate client settings.service.timeoutSeconds id
      | none => showListing client settings.service.timeoutSeconds a.category a.tags

end PolicyRollout.Cli
