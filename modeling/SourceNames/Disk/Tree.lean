-- The tree of files that names are resolved against: files with their bytes and the time
-- of their last status change, folders, and symbolic links.

import SourceNames.Text.Segments

namespace SourceNames

/-! ## Entry names -/

/-- The greatest size of an entry name, in bytes of UTF-8. -/
def longestName : Nat := 255

/-- Whether a text can name an entry of a folder: it is not empty, is not one of the two dot
names, holds no slash, and is not too long. -/
def IsEntryName (text : String) : Prop :=
  text ≠ "" ∧ text ≠ "." ∧ text ≠ ".." ∧ '/' ∉ text.toList ∧ text.utf8ByteSize ≤ longestName

instance (text : String) : Decidable (IsEntryName text) := by
  unfold IsEntryName; infer_instance

structure EntryName where
  text : String
  valid : IsEntryName text
  deriving DecidableEq

/-- A text as an entry name, if it can be one. -/
def EntryName.ofText? (text : String) : Option EntryName :=
  if h : IsEntryName text then some ⟨text, h⟩ else none

instance : Repr EntryName := ⟨fun name _ => repr name.text⟩

/-! ## Nodes -/

/-- A file, a folder or a link. The time of a file's last status change is in microseconds
from the start of 1970. -/
inductive Node
  | file (bytes : List UInt8) (changed : Int)
  | folder (entries : List (EntryName × Node))
  | link (target : String)
  deriving Inhabited

namespace Node

def emptyFolder : Node := .folder []

/-- The entries of a folder; other nodes have none. -/
def entries : Node → List (EntryName × Node)
  | .folder entries => entries
  | _ => []

def names (node : Node) : List EntryName := node.entries.map (·.1)

/-- The entry of a folder with a name. -/
def child? (node : Node) (name : String) : Option Node :=
  (node.entries.find? (·.1.text == name)).map (·.2)

/-- The node at the end of a chain of names, no link being followed. -/
def at? : Node → List String → Option Node
  | node, [] => some node
  | node, name :: rest =>
    match node.child? name with
    | some child => child.at? rest
    | none => none

/-! ## Changes -/

/-- Entries with one set: in its place if the name is there already, else at the end. -/
def setEntry (name : EntryName) (node : Node) :
    List (EntryName × Node) → List (EntryName × Node)
  | [] => [(name, node)]
  | (other, old) :: rest =>
    if other = name then (other, node) :: rest else (other, old) :: setEntry name node rest

/-- The tree with a node put at the end of a chain of names; folders on the way are made as
needed. Nothing can be put under a text that is no entry name. -/
def put (new : Node) : List String → Node → Node
  | [], _ => new
  | name :: rest, node =>
    match EntryName.ofText? name with
    | some entry =>
      .folder (setEntry entry (put new rest ((node.child? name).getD emptyFolder)) node.entries)
    | none => node

/-- The tree without the entry at the end of a chain of names. -/
def remove : List String → Node → Node
  | [], node => node
  | [name], node =>
    match node with
    | .folder entries => .folder (entries.filter (·.1.text ≠ name))
    | other => other
  | name :: rest, node =>
    match EntryName.ofText? name, node.child? name with
    | some entry, some child => .folder (setEntry entry (remove rest child) node.entries)
    | _, _ => node

end Node

mutual

def Node.linkCount : Node → Nat
  | .file _ _ => 0
  | .link _ => 1
  | .folder entries => entriesLinkCount entries

def entriesLinkCount : List (EntryName × Node) → Nat
  | [] => 0
  | (_, node) :: rest => node.linkCount + entriesLinkCount rest

end

end SourceNames
