import ToolBootstrap.Repository

/- Finding objects in a repository: by a reference, by its name, and behind tags. -/

namespace ToolBootstrap.Repository

/-- A repository without commits whose head will be on a branch. -/
def empty (branch : String) : Repository := ⟨[], [], .symbolic ("refs/heads/" ++ branch)⟩

def object? (r : Repository) (id : ObjectId) : Option Object := r.objects[id]?

/-- The longest chain of symbolic references that is followed. -/
def chainLimit : Nat := 5

/-- The object that a reference leads to, through at most `fuel` symbolic references. -/
def followWithin (r : Repository) : Nat → Reference → Option ObjectId
  | _, .direct id => some id
  | 0, .symbolic _ => none
  | fuel + 1, .symbolic name => (r.references.lookup name).bind (r.followWithin fuel)

def follow (r : Repository) (reference : Reference) : Option ObjectId :=
  r.followWithin chainLimit reference

/-- The object at the head, if the head's branch has been born. -/
def headId? (r : Repository) : Option ObjectId := r.follow r.head

/-- The object that a full reference name leads to; `HEAD` is the head. -/
def named? (r : Repository) (name : String) : Option ObjectId :=
  if name = "HEAD" then r.headId?
  else (r.references.lookup name).bind r.follow

/-- The commit that an object leads to, through at most `fuel` tags. -/
def peelWithin (r : Repository) : Nat → ObjectId → Option ObjectId
  | 0, _ => none
  | fuel + 1, id =>
    match r.object? id with
    | some (.commit ..) => some id
    | some (.tag target) => r.peelWithin fuel target
    | _ => none

def peel? (r : Repository) (id : ObjectId) : Option ObjectId :=
  r.peelWithin (r.objects.length + 1) id

def filesOf (r : Repository) (id : ObjectId) : Snapshot :=
  match r.object? id with
  | some (.commit files _ _) => files
  | _ => []

def messageOf (r : Repository) (id : ObjectId) : String :=
  match r.object? id with
  | some (.commit _ _ message) => message
  | _ => ""

end ToolBootstrap.Repository
