import DeltaLint.Cli.Outcome
import DeltaLint.Json.Reader
import DeltaLint.Tree.Program

/-!
# Described machines

A machine, its repository and the answers of its user, described as data: file
trees by path, references by name, and patches by the states they lie between.
Whatever is left out is empty.
-/

namespace DeltaLint
namespace Description

/-! # Parts of a description -/

def field (d : Datum) (key : String) : Datum :=
  (d.get? key).getD .null

def text (d : Datum) : String :=
  match d with
  | .text s => s
  | d => d.shown

/-- A text, unless there is nothing. -/
def text? (d : Datum) : Option String :=
  match d with
  | .null => none
  | d => some (text d)

def items : Datum → List Datum
  | .list items => items
  | _ => []

def texts (d : Datum) : List String :=
  (items d).map text

def entries : Datum → List (String × Datum)
  | .map entries => entries.map fun (k, v) => (text k, v)
  | _ => []

/-- The bytes that pairs of hexadecimal digits stand for. -/
def hexBytes : List Char → List UInt8
  | a :: b :: rest =>
    (16 * (Json.hexDigit? a).getD 0 + (Json.hexDigit? b).getD 0).toUInt8 :: hexBytes rest
  | _ => []

/-- Bytes given in hexadecimal, or as text. -/
def bytes (d : Datum) : List UInt8 :=
  match d.get? "hex" with
  | some h => hexBytes (text h).toList
  | none => Text.encode ((text? (field d "text")).getD "").toList

/-! # File trees -/

/-- The number of permission bits in octal. -/
def mode (s : String) : Nat :=
  s.toList.foldl (fun n c => 8 * n + (c.toNat - 48)) 0

/-- An entry: nothing for a directory, a text for a file that holds it, or a link or a file with
its permission bits. -/
def entry (d : Datum) : Entry :=
  match d with
  | .null => .empty
  | .text s => .file (Text.encode s.toList) newFileMode
  | d =>
    match d.get? "link" with
    | some target => .link (text target)
    | none => .file (bytes d) ((text? (field d "mode")).elim newFileMode mode)

/-- Puts described entries into a tree, each at its path below some directories. -/
def putEntries (below : List String) (files : Datum) (tree : Entry) : Entry :=
  (entries files).foldl
    (fun tree (path, d) => Entry.put (entry d) (below ++ (Path.ofString path).parts) tree) tree

/-- The host with its working directory at a place, if there is a directory. -/
def enter (h : Host) (place : List String) : Host :=
  match h.lookup ⟨.root, place⟩ with
  | .ok (place, .directory _) => { h with here := place }
  | _ => h

/-- The host that a description gives: the files by path from the root of the file tree, the
variables, and the working directory. -/
def host (d : Datum) : Host :=
  let environment := (entries (field d "variables")).map fun (k, v) => (k, text v)
  let h : Host := ⟨putEntries [] (field d "files") .empty, environment, []⟩
  enter h.withPrograms (Path.ofString ((text? (field d "directory")).getD "/")).parts

/-! # Repositories -/

/-- What a reference leads to: a tag leads to the commit it is of. -/
def refTarget (d : Datum) : Revision.RefTarget :=
  if (d.get? "raise").isSome then .unreadable
  else
    match text (field d "type") with
    | "commit" | "tag" => .commit (text (field d "id"))
    | _ => .notCommit

def snapshot : String → Revision.Snapshot
  | "index" => .index
  | "workdir" => .workdir
  | id => .commit id

/-- Changes by their letter. -/
def status : String → Revision.Status
  | "A" => .added
  | "C" => .copied
  | "M" => .modified
  | "R" => .renamed
  | _ => .other

def patch (d : Datum) : Revision.FilePatch :=
  ⟨(text? (field d "path")).getD "", status (text (field d "status")), bytes d⟩

def mergeBase? : Datum → Option ((String × String) × String)
  | .list [a, b, base] => if base.isEmpty then none else some ((text a, text b), text base)
  | _ => none

def comparison? : Datum → Option ((Revision.Snapshot × Revision.Snapshot) × List Revision.FilePatch)
  | .list [a, b, patches] =>
    some ((snapshot (text a), snapshot (text b)), (items patches).map patch)
  | _ => none

/-- A repository; its working tree is in a directory unless the description says otherwise. -/
def repository (workdir : String) (d : Datum) : Revision.Repository :=
  ⟨(entries (field d "refs")).map fun (name, t) => (name, refTarget t),
    (items (field d "merge_bases")).filterMap mergeBase?,
    (items (field d "diffs")).filterMap comparison?,
    (d.get? "workdir").elim (some workdir) text?⟩

/-- What looking for a repository finds. -/
def discovery (workdir : String) (d : Datum) : Revision.Discovery :=
  match d with
  | .null => .absent
  | d =>
    if (field d "open_error").isEmpty then .found (repository workdir d) else .unreadable

/-! # Surroundings -/

/-- The answer to a question, unless it is cancelled. -/
def answer (d : Datum) : Option (List String) :=
  match d with
  | .null => none
  | d => some (texts d)

def processors : Datum → Option Nat
  | .int n => some n.toNat
  | _ => none

/-- The surroundings that a description gives. -/
def surroundings (d : Datum) : Cli.Surroundings :=
  let h := host d
  ⟨h, discovery h.directory.text (field d "git"), answer (field d "answer"),
    processors (field d "processors"), (text? (field d "time")).getD "", .whole 0⟩

end Description
end DeltaLint
