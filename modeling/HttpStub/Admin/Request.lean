import HttpStub.Http.Status

/-!
# Admin requests

A request to the admin interface: its method, its path below the URL of the server, and the one
status that counts as success.
-/

namespace HttpStub.Admin

/-- One request to the admin interface. -/
structure Request where
  method : String
  path : String
  expected : Http.Status
deriving DecidableEq

namespace Request

/-- The root of the admin interface. -/
def root : String := "__admin"

/-- A path below the `root`, whatever slashes it begins with. -/
def rooted (path : String) : String :=
  match path.toList.dropWhile (· = '/') with
  -- No slash is put behind the root if nothing follows.
  | [] => root
  | rest => root ++ "/" ++ String.ofList rest

/-- A request that expects `Http.Status.ok`. -/
def of (method path : String) : Request :=
  ⟨method, rooted path, .ok⟩

/-- The same request, expecting another status. -/
def expecting (r : Request) (status : Http.Status) : Request :=
  { r with expected := status }

end Request

end HttpStub.Admin
