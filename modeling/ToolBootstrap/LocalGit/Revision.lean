import ToolBootstrap.Decimal.Power
import ToolBootstrap.LocalGit.Repository
import ToolBootstrap.Text.Lines

/- Revisions: the ways to name an object of a repository.

   A revision is a name, followed by steps: `^n` to a parent, `~n` back along first parents,
   `^{kind}` to what a tag or commit leads to, `:path` into the files of a commit. `@` is the head,
   and `:/text` the newest commit that mentions a text. A name is looked up as it is, and below
   `refs/`, the tags, the branches and the remotes, in this order. -/

namespace ToolBootstrap.LocalGit

open Repository

/-! ## Targets and faults -/

/-- What a revision leads to. -/
inductive Target where
  | object (id : ObjectId)
  /-- A directory of a commit: the files below it. -/
  | tree (files : Snapshot)
  /-- A file of a commit. -/
  | file (data : Bytes)
  deriving DecidableEq, Repr

inductive ObjectKind where
  | commit
  | tree
  | blob
  | tag
  deriving DecidableEq, Repr

def ObjectKind.name : ObjectKind → String
  | .commit => "commit"
  | .tree => "tree"
  | .blob => "blob"
  | .tag => "tag"

def ObjectKind.number : ObjectKind → Nat
  | .commit => 1
  | .tree => 2
  | .blob => 3
  | .tag => 4

/-- The name of an object, as forty hexadecimal digits. -/
def objectName : Target → String
  | .object id =>
    let digits := Nat.toDigits 16 id
    String.ofList (List.replicate (40 - digits.length) '0' ++ digits)
  | _ => String.ofList (List.replicate 40 '0')

/-- Why a revision leads nowhere. -/
inductive RevisionFault where
  /-- The revision is not well formed. -/
  | invalid
  | notFound (name : String)
  | shortPrefix
  | noParent (index : Nat)
  | unpeelable (target : Target) (kind : ObjectKind)
  | noEntry (name : Bytes)
  | notDirectory (name : Bytes)
  | emptyEntry
  | unsupported
  | notTracking (name : String)
  | noMatch
  deriving DecidableEq, Repr

def RevisionFault.message (spec : String) : RevisionFault → String
  | .invalid => "failed to parse revision specifier - Invalid pattern '" ++ spec ++ "'"
  | .notFound name => "revspec '" ++ name ++ "' not found"
  | .shortPrefix => "ambiguous lookup - OID prefix is too short"
  | .noParent index => "parent " ++ toString index ++ " does not exist"
  | .unpeelable target kind =>
    "the git_object of id '" ++ objectName target ++ "' can not be successfully peeled into a " ++
      kind.name ++ " (git_object_t=" ++ toString kind.number ++ ")."
  | .noEntry name => "the path '" ++ Utf8.lossy name ++ "' does not exist in the given tree"
  | .notDirectory name => "the path '" ++ Utf8.lossy name ++ "' exists but is not a tree"
  | .emptyEntry => "invalid tree path given"
  | .unsupported => "unimplemented"
  | .notTracking name => "branch '" ++ name ++ "' does not have an upstream"
  | .noMatch => "no error"

/-! ## Names of references -/

def isReferenceChar (c : Char) : Bool :=
  ' ' < c && !(['~', '^', ':', '\\', '?', '[', '*'].contains c)

/-- Whether a part of a reference's name is well formed. -/
def isReferencePart (part : List Char) : Bool :=
  !part.isEmpty && part.head? != some '.' && part.all isReferenceChar &&
    !occursIn ['.', '.'] part && !occursIn ['@', '\x7b'] part &&
    !".lock".toList.isSuffixOf part

/-- Whether a name is made of capitals and underscores, with no underscore at its ends. -/
def isCapital (part : List Char) : Bool :=
  part.all (fun c => ('A' ≤ c && c ≤ 'Z') || c == '_') && part.head? != some '_' &&
    part.getLast? != some '_' && !part.isEmpty

/-- Whether a full name of a reference is well formed: a single part has to be in capitals, and
the first of several must not be. -/
def isReferenceName (name : String) : Bool :=
  let parts := name.toList.splitOn '/'
  parts.all isReferencePart && name.toList.getLast? != some '.' &&
    match parts with
    | [only] => isCapital only
    | first :: _ => !isCapital first
    | [] => false

/-- The full names that a short name may stand for, in order. -/
def fullNames (name : String) : List String :=
  [name, "refs/" ++ name, "refs/tags/" ++ name, "refs/heads/" ++ name, "refs/remotes/" ++ name,
    "refs/remotes/" ++ name ++ "/HEAD"]

/-- The first of some full names that leads to an object; a malformed one last makes the whole
name invalid. -/
def firstReference (r : Repository) : List String → Except RevisionFault (Option ObjectId)
  | [] => .ok none
  | [name] =>
    if isReferenceName name then .ok (r.named? name) else .error .invalid
  | name :: rest =>
    if isReferenceName name then
      match r.named? name with
      | some id => .ok (some id)
      | none => firstReference r rest
    else firstReference r rest

def isHexadecimal (cs : List Char) : Bool :=
  !cs.isEmpty && cs.all fun c => c.isDigit || ('a' ≤ c && c ≤ 'f') || ('A' ≤ c && c ≤ 'F')

/-- The object that a name stands for. No object is found by the start of its own name. -/
def lookUp (r : Repository) (name : String) : Except RevisionFault Target :=
  match firstReference r (fullNames name) with
  | .error fault => .error fault
  | .ok (some id) => .ok (.object id)
  | .ok none =>
    if isHexadecimal name.toList && name.length < 4 then .error .shortPrefix
    else .error (.notFound name)

/-! ## Steps -/

def kindOf (r : Repository) : Target → ObjectKind
  | .tree _ => .tree
  | .file _ => .blob
  | .object id =>
    match r.object? id with
    | some (.commit ..) => .commit
    | some (.tag _) => .tag
    | _ => .blob

/-- What an object leads to: a tag to its target, a commit to its files. -/
def dereference? (r : Repository) : Target → Option Target
  | .object id =>
    match r.object? id with
    | some (.tag target) => some (.object target)
    | some (.commit files ..) => some (.tree files)
    | _ => none
  | _ => none

/-- The first target of a kind on the way from a target, in at most `fuel` steps. -/
def peelChain (r : Repository) (kind : ObjectKind) : Nat → Target → Option Target
  | 0, _ => none
  | fuel + 1, target =>
    if kindOf r target = kind then some target
    else (dereference? r target).bind (peelChain r kind fuel)

/-- Whether a target of one kind can lead to one of another at all. -/
def mayLead (start goal : ObjectKind) : Bool :=
  start == goal || start == .tag || (start == .commit && goal == .tree)

/-- The target of a kind that a target leads to. -/
def peelTo (r : Repository) (kind : ObjectKind) (target : Target) : Except RevisionFault Target :=
  match peelChain r kind (r.objects.length + 2) target with
  | some found => .ok found
  | none => .error (.unpeelable target kind)

/-- The same inside a revision, where an impossible step makes the revision invalid. -/
def stepTo (r : Repository) (kind : ObjectKind) (target : Target) : Except RevisionFault Target :=
  if mayLead (kindOf r target) kind then peelTo r kind target else .error .invalid

/-- The commit that a target leads to, inside a revision. -/
def commitOf (r : Repository) (target : Target) : Except RevisionFault ObjectId :=
  match stepTo r .commit target with
  | .error fault => .error fault
  | .ok (.object id) => .ok id
  | .ok _ => .error .invalid

def parentsOf (r : Repository) (id : ObjectId) : List ObjectId :=
  match r.object? id with
  | some (.commit _ parents _) => parents
  | _ => []

def parentAt (r : Repository) (id : ObjectId) (index : Nat) : Except RevisionFault ObjectId :=
  match (parentsOf r id)[index]? with
  | some parent => .ok parent
  | none => .error (.noParent index)

/-- The commit some first parents back. -/
def ancestor (r : Repository) : Nat → ObjectId → Except RevisionFault ObjectId
  | 0, id => .ok id
  | n + 1, id =>
    match parentAt r id 0 with
    | .ok parent => ancestor r n parent
    | .error fault => .error fault

/-- What a tag leads to that is no tag, in at most `fuel` steps. -/
def withoutTags (r : Repository) : Nat → Target → Target
  | 0, target => target
  | fuel + 1, .object id =>
    match r.object? id with
    | some (.tag target) => withoutTags r fuel (.object target)
    | _ => .object id
  | _, target => target

/-! ## Files -/

/-- The files below a directory of a snapshot, by their names from there. -/
def below (files : Snapshot) (name : Bytes) : Snapshot :=
  files.filterMap fun f =>
    if (name ++ [0x2F]).isPrefixOf f.1 then some (f.1.drop (name.length + 1), f.2) else none

/-- What stands at the parts of a path. -/
def entryAt : Snapshot → List Bytes → Except RevisionFault Target
  | _, [] => .error .emptyEntry
  | files, name :: rest =>
    if name = [] then .error .emptyEntry
    else
      match files.lookup name, below files name with
      | some data, _ => if rest = [] then .ok (.file data) else .error (.notDirectory name)
      | none, [] => .error (.noEntry name)
      | none, inner => if rest = [] ∨ rest = [[]] then .ok (.tree inner) else entryAt inner rest

/-- What stands at a path of a target's files. -/
def pathIn (r : Repository) (target : Target) (path : Bytes) : Except RevisionFault Target :=
  match stepTo r .tree target with
  | .ok (.tree files) => if path = [] then .ok (.tree files) else entryAt files (path.splitOn 0x2F)
  | .ok _ => .error .invalid
  | .error fault => .error fault

/-! ## Searching messages -/

/-- Whether a text starts with a pattern, in which a point stands for any character. -/
def matchesFront : List Char → List Char → Bool
  | [], _ => true
  | _ :: _, [] => false
  | p :: ps, c :: cs => (p == '.' || p == c) && matchesFront ps cs

/-- Whether a pattern matches somewhere in a text. -/
def matchesSomewhere (pattern : List Char) : List Char → Bool
  | [] => pattern.isEmpty
  | c :: cs => matchesFront pattern (c :: cs) || matchesSomewhere pattern cs

/-- Whether a pattern matches in a text; after `^` only at its start. -/
def matchesIn : List Char → List Char → Bool
  | '^' :: rest, cs => matchesFront rest cs
  | pattern, cs => matchesSomewhere pattern cs

/-- The commits that lead from some objects, in at most `fuel` generations. -/
def history (r : Repository) : Nat → List ObjectId → List ObjectId
  | 0, _ => []
  | _, [] => []
  | fuel + 1, ids => ids ++ history r fuel (ids.flatMap (parentsOf r)).eraseDups

/-- The newest commit in the history of some objects whose message matches a pattern. -/
def search (r : Repository) (starts : List ObjectId) (pattern : List Char) :
    Except RevisionFault Target :=
  if pattern = [] then .error .invalid
  else
    let reached := history r (r.objects.length + 1) (starts.filterMap r.peel?)
    let newest := (List.range r.objects.length).reverse
    let hit (id : ObjectId) : Bool :=
      reached.contains id && matchesIn pattern (r.messageOf id).toList
    match newest.find? hit with
    | some id => .ok (.object id)
    | none => .error .noMatch

def allTips (r : Repository) : List ObjectId := r.references.filterMap fun x => r.follow x.2

/-! ## Reading a revision -/

/-- The text between braces, and what follows them. -/
def braced? (cs : List Char) : Option (List Char × List Char) :=
  match cs with
  | '\x7b' :: rest =>
    if rest.contains '\x7d' then
      some (rest.takeWhile (· ≠ '\x7d'), (rest.dropWhile (· ≠ '\x7d')).drop 1)
    else none
  | _ => none

/-- The number that decimal digits write, unless it has more than thirty-one bits. -/
def count? (digits : List Char) : Option Nat :=
  let n := digits.foldl (fun n c => n * 10 + (c.toNat - 48)) 0
  if n < twoTo 31 then some n else none

/-- The number of generations that `~` marks and numbers write, after the first mark. -/
def generations : Nat → Nat → List Char → Option (Nat × List Char)
  | 0, _, _ => none
  | fuel + 1, sum, cs =>
    let marks := (cs.takeWhile (· == '~')).length
    let rest := cs.drop marks
    let digits := rest.takeWhile Char.isDigit
    let after := rest.drop digits.length
    let total? :=
      if digits = [] then some (sum + 1 + marks) else (count? digits).map (sum + marks + ·)
    match total?, after with
    | none, _ => none
    | some total, '~' :: more => generations fuel total more
    | some total, _ => some (total, after)

/-- The number of the parent after `^`: the first one where none is written. -/
def parentNumber (cs : List Char) : Option (Nat × List Char) :=
  let digits := cs.takeWhile Char.isDigit
  if digits = [] then some (1, cs) else (count? digits).map fun n => (n, cs.drop digits.length)

/-- What `^{inside}` leads to. -/
def caretBraces (r : Repository) (target : Target) (inside : List Char) :
    Except RevisionFault Target :=
  match inside with
  | [] => .ok (withoutTags r (r.objects.length + 1) target)
  | '/' :: pattern =>
    match target with
    | .object id => search r [id] pattern
    | _ => .error .invalid
  | _ =>
    match [ObjectKind.commit, .tree, .blob, .tag].find? (·.name.toList == inside) with
    | some kind => stepTo r kind target
    | none => .error .invalid

/-- What a parent step leads to. -/
def caret (r : Repository) (target : Target) (n : Nat) : Except RevisionFault Target :=
  match commitOf r target with
  | .error fault => .error fault
  | .ok id => if n = 0 then .ok (.object id) else (parentAt r id (n - 1)).map .object

/-- The branch on the remote that a branch tracks. -/
def tracked (r : Repository) (name : String) : Except RevisionFault Target :=
  let branch :=
    if name = "" then
      match r.head with
      | .symbolic full => String.ofList (full.toList.drop "refs/heads/".length)
      | .direct _ => "HEAD"
    else name
  match r.named? ("refs/heads/" ++ branch), r.named? ("refs/remotes/origin/" ++ branch) with
  | some _, some id => .ok (.object id)
  | _, _ => .error (.notTracking branch)

/-- What `name@{inside}` leads to: the newest state of a reference, or the branch that it tracks. -/
def atBraces (r : Repository) (name : List Char) (inside : List Char) :
    Except RevisionFault Target :=
  let text := String.ofList name
  if inside = "u".toList ∨ inside = "upstream".toList then tracked r text
  else if inside ≠ [] ∧ inside.all (· == '0') then lookUp r (if name = [] then "HEAD" else text)
  else .error .invalid

/-- What has been read of a revision: a name that is still growing, or what it stands for. -/
inductive Progress where
  | name (cs : List Char)
  | target (target : Target)
  deriving DecidableEq, Repr

def Progress.load (r : Repository) (allowEmpty : Bool) : Progress → Except RevisionFault Target
  | .target reached => .ok reached
  | .name cs =>
    if cs = [] ∧ allowEmpty = false then .error .invalid else lookUp r (String.ofList cs)

/-- What the rest of a revision leads to, read in at most `fuel` steps. -/
def resolveWithin (r : Repository) : Nat → Progress → List Char → Except RevisionFault Target
  | 0, done, _ => done.load r false
  | _, done, [] => done.load r false
  | fuel + 1, done, '^' :: cs => do
    let target ← done.load r false
    match cs with
    | '\x7b' :: _ =>
      match braced? cs with
      | none => throw .invalid
      | some (inside, rest) =>
        let next ← caretBraces r target inside
        resolveWithin r fuel (.target next) rest
    | _ =>
      match parentNumber cs with
      | none => throw .invalid
      | some (n, rest) =>
        let next ← caret r target n
        resolveWithin r fuel (.target next) rest
  | fuel + 1, done, '~' :: cs => do
    match generations (cs.length + 1) 0 cs with
    | none => throw .invalid
    | some (n, rest) =>
      let target ← done.load r false
      let id ← commitOf r target
      let next ← ancestor r n id
      resolveWithin r fuel (.target (.object next)) rest
  | fuel + 1, done, ':' :: cs =>
    match done, cs with
    | .name [], '/' :: pattern => search r (allTips r) pattern
    | .name [], _ => .error .unsupported
    | _, _ => do
      let target ← done.load r true
      let next ← pathIn r target (Utf8.encodeChars cs)
      resolveWithin r fuel (.target next) []
  | fuel + 1, done, '@' :: '\x7b' :: cs => do
    match braced? ('\x7b' :: cs), done with
    | some (inside, rest), .name name =>
      let next ← atBraces r name inside
      resolveWithin r fuel (.target next) rest
    | _, _ => throw .invalid
  | _, .name _, ['@'] => lookUp r "HEAD"
  | _, .target target, ['@'] => .ok target
  | fuel + 1, .name name, c :: cs => resolveWithin r fuel (.name (name ++ [c])) cs
  | _, .target _, _ :: _ => .error .invalid

/-- What a revision leads to. -/
def resolve (r : Repository) (spec : String) : Except RevisionFault Target :=
  resolveWithin r (spec.length + 1) (.name []) spec.toList

end ToolBootstrap.LocalGit
