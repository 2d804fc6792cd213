import PolicyRollout.Topology.Basic
/-!
A complete infrastructure of four tiers that is used when no topology is
given: two public web servers, five services that depend on one another, three
databases, and two resources for authorized users only.
-/
namespace PolicyRollout.Reference

/-- A web server that anyone may reach. -/
def webServer (name ip : String) : Server :=
  ⟨name, ip, some "0.0.0.0/0", none, none⟩

/-- A service on a given port. -/
def service (name ip : String) (port : Nat) (dependencies : List String) : Service :=
  ⟨name, ip, some port, dependencies⟩

/-- A resource that is reached encrypted only. -/
def resource (name ip : String) (port : Nat) (users : List String) : Resource :=
  ⟨name, ip, port, users, some true⟩

def tier (name switch : String) (entities : Entities) : Tier :=
  ⟨name, switch, none, none, entities⟩

def web : Tier :=
  tier "web_tier" "ls-web" (.servers [webServer "web-1" "10.0.1.10", webServer "web-2" "10.0.1.11"])

def application : Tier :=
  tier "app_tier" "ls-app" (.services [
    service "api-gateway" "10.0.2.10" 8080 ["user-service", "order-service"],
    service "user-service" "10.0.2.11" 8081 ["auth-service"],
    service "order-service" "10.0.2.12" 8082 ["user-service", "payment-service"],
    service "payment-service" "10.0.2.13" 8083 [],
    service "auth-service" "10.0.2.14" 8084 []])

def data : Tier :=
  tier "data_tier" "ls-data" (.databases [
    ⟨"users-db", .postgreSql, "10.0.3.10", none, "10.0.2.0/24", some "10.0.100.50", some true,
      ["10.0.3.11", "10.0.3.12"]⟩,
    ⟨"orders-db", .mySql, "10.0.3.20", none, "10.0.2.0/24", some "10.0.100.50", none, []⟩,
    ⟨"cache", .redis, "10.0.3.30", none, "10.0.2.0/24", none, none, []⟩])

def secure : Tier :=
  tier "secure_resources" "ls-secure" (.resources [
    resource "admin-panel" "10.0.5.10" 443 ["10.0.100.10", "10.0.100.11"],
    resource "monitoring" "10.0.5.20" 3000 ["10.0.100.10", "10.0.100.11", "10.0.100.12"]])

/-- The infrastructure that is used when none is given. -/
def topology : Topology :=
  ⟨[web, application, data, secure]⟩

end PolicyRollout.Reference
