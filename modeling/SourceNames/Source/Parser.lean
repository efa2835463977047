-- The part of a resolver that reads source text: a scanner that remembers what it found in
-- the texts it saw last, by path and digest.

import SourceNames.Digest
import SourceNames.Source.Memo
import SourceNames.Source.Scan

namespace SourceNames

/-- Scans by the path and the digest of the text they were made from. -/
abbrev ScanMemo := Memo (String × String) SourceScan

/-- How many scans are remembered unless another number is asked for. -/
def usualCapacity : Nat := 1024

/-- The key a text is remembered by. -/
def scanKey (source path : String) : String × String := (path, contentHash source)

/-- An empty memory of the given capacity, which must be positive. -/
def ScanMemo.ofCapacity? (capacity : Int) : Option ScanMemo :=
  if h : 0 < capacity.toNat then some (Memo.empty capacity.toNat h) else none

/-- An empty memory of the usual capacity. -/
def ScanMemo.usual : ScanMemo := Memo.empty usualCapacity (by decide)

/-- Something that finds imports and version pragmas in the text of a file. It always has an
answer, and may remember scans. -/
abbrev SourceParser := (source path : String) → ScanMemo → SourceScan × ScanMemo

/-- A parser that remembers what a scanner found, and asks it only about what it does not hold. -/
def rememberingWith (scanner : (source : String) → SourceScan) : SourceParser :=
  fun source path memo => memo.use (scanKey source path) fun _ => scanner source

/-- The parser that remembers scans. -/
def rememberingParser : SourceParser := rememberingWith scan

/-- A parser that finds the same in every text. -/
def fixedParser (answer : SourceScan) : SourceParser := fun _ _ memo => (answer, memo)

end SourceNames
