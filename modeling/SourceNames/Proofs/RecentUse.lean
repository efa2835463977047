-- A memory holds the keys used last. Whatever was used before, its keys are the last distinct
-- ones of the history, in the order of their last use, as many as there is room for, and a
-- text is scanned only when its key is not among them.

import Mathlib.Data.List.Dedup
import Mathlib.Data.List.Induction
import SourceNames.Source.Parser

namespace SourceNames

/-! ## The order of last use -/

/-- Of two keys of a history, the first is not used any more when the second one is. -/
def LastUsedBefore {κ : Type} (history : List κ) (a b : κ) : Prop :=
  ∃ front back, history = front ++ back ∧ a ∈ front ∧ a ∉ back ∧ b ∈ back

variable {κ α : Type} [DecidableEq κ]

/-- The last of the distinct keys of a history, by their last use, as many as there is room for. -/
def lastUsed (capacity : Nat) (history : List κ) : List κ :=
  history.dedup.drop (history.dedup.length - capacity)

theorem pairwise_lastUsedBefore (history : List κ) :
    history.dedup.Pairwise (LastUsedBefore history) := by
  induction history with
  | nil => simp
  | cons key later ih =>
    have hmore : later.dedup.Pairwise (LastUsedBefore (key :: later)) :=
      ih.imp fun ⟨front, back, hsplit, ha, hb⟩ =>
        ⟨key :: front, back, by simp [hsplit], List.mem_cons_of_mem _ ha, hb⟩
    by_cases hkey : key ∈ later
    · rwa [List.dedup_cons_of_mem hkey]
    · rw [List.dedup_cons_of_notMem hkey, List.pairwise_cons]
      refine ⟨fun other hother => ?_, hmore⟩
      exact ⟨[key], later, rfl, by simp, hkey, List.mem_dedup.mp hother⟩

/-- A key that is used moves to the end. -/
theorem dedup_concat (history : List κ) (key : κ) :
    (history ++ [key]).dedup = history.dedup.filter (· ≠ key) ++ [key] := by
  induction history with
  | nil => simp
  | cons other later ih =>
    by_cases hother : other ∈ later
    · rw [List.cons_append, List.dedup_cons_of_mem (List.mem_append_left _ hother), ih,
        List.dedup_cons_of_mem hother]
    by_cases hkey : other = key
    · subst hkey
      rw [List.cons_append, List.dedup_cons_of_mem (by simp), ih, List.dedup_cons_of_notMem hother]
      simp
    · rw [List.cons_append, List.dedup_cons_of_notMem (by simp [hother, hkey]), ih,
        List.dedup_cons_of_notMem hother]
      simp [hkey]

/-- Only the end of a list shows in its last elements. -/
theorem drop_append_eq {β : Type} {front back : List β} {n : Nat}
    (h : front = [] ∨ n ≤ back.length) :
    (front ++ back).drop ((front ++ back).length - n) = back.drop (back.length - n) := by
  rcases h with rfl | h
  · rfl
  · rw [List.drop_append, List.length_append]
    have hfront : front.length ≤ front.length + back.length - n := by omega
    rw [List.drop_eq_nil_of_le hfront, List.nil_append]
    congr 1
    omega

theorem length_filter_ne_of_nodup {keys : List κ} (h : keys.Nodup) (key : κ) :
    keys.length ≤ (keys.filter (· ≠ key)).length + 1 := by
  have hcount := List.nodup_iff_count_le_one.mp h key
  have hsplit := List.length_eq_countP_add_countP (· ≠ key) (l := keys)
  have hrest : keys.countP (fun other => ¬ decide (other ≠ key) = true) = keys.count key := by
    rw [List.count]
    exact List.countP_congr fun other _ => by simp
  rw [hrest, List.countP_eq_length_filter] at hsplit
  omega

/-- The keys used last after one more use. -/
theorem lastUsed_concat (capacity : Nat) (history : List κ) (key : κ) :
    lastUsed capacity (history ++ [key]) =
      let kept := (lastUsed capacity history).filter (· ≠ key) ++ [key]
      kept.drop (kept.length - capacity) := by
  unfold lastUsed
  rw [dedup_concat]
  have hnodup := List.nodup_dedup history
  generalize history.dedup = distinct at hnodup
  have hsplit := List.take_append_drop (distinct.length - capacity) distinct
  generalize hfront : distinct.take (distinct.length - capacity) = front at hsplit
  generalize hback : distinct.drop (distinct.length - capacity) = back at hsplit
  rw [← hsplit, List.filter_append, List.append_assoc]
  refine drop_append_eq ?_
  by_cases hroom : distinct.length ≤ capacity
  · left
    simp [← hfront, Nat.sub_eq_zero_of_le hroom]
  · -- There are as many as there is room for, and one of them at most is used again.
    right
    have hlength : back.length = capacity := by
      rw [← hback, List.length_drop]
      omega
    have hone := length_filter_ne_of_nodup (hback ▸ hnodup.drop) key
    simp only [List.length_append, List.length_singleton]
    omega

/-! ## What is held -/

namespace Memo

theorem keys_keep (m : Memo κ α) (key : κ) (result : α) :
    (m.keep key result).keys =
      let kept := m.keys.filter (· ≠ key) ++ [key]
      kept.drop (kept.length - m.capacity) := by
  have hkept : (m.entries.filter (·.1 ≠ key) ++ [(key, result)]).map (·.1) =
      m.keys.filter (· ≠ key) ++ [key] := by
    simp [keys, List.filter_map, Function.comp_def]
  have hlength := congrArg List.length hkept
  rw [List.length_map] at hlength
  calc (m.keep key result).keys
      = ((m.entries.filter (·.1 ≠ key) ++ [(key, result)]).map (·.1)).drop
          ((m.entries.filter (·.1 ≠ key) ++ [(key, result)]).length - m.capacity) :=
        List.map_drop
    _ = _ := by rw [hkept, hlength]

theorem use_eq (m : Memo κ α) (key : κ) (compute : Unit → α) :
    m.use key compute =
      let result := (m.find? key).getD (compute ())
      (result, m.keep key result) := by
  unfold use
  cases m.find? key <;> rfl

theorem find?_eq_none_iff {m : Memo κ α} {key : κ} : m.find? key = none ↔ key ∉ m.keys := by
  simp only [find?, List.lookup_eq_none_iff, keys, List.mem_map, not_exists, not_and]
  constructor
  · rintro h entry hmem rfl
    simpa using h entry hmem
  · intro h entry hmem
    simpa [bne_iff_ne] using fun heq => h entry hmem heq.symm

end Memo

namespace ScanMemo

/-- The memory after texts have been parsed one after the other. -/
def afterParsing (memo : ScanMemo) (calls : List (String × String)) : ScanMemo :=
  calls.foldl (fun memo call => (rememberingParser call.1 call.2 memo).2) memo

/-- A call scans its text if it answers what the scanner finds, whatever scanner it is. -/
def Scans (memo : ScanMemo) (source path : String) : Prop :=
  ∀ scanner, (rememberingWith scanner source path memo).1 = scanner source

/-- A call answers from memory if it makes no difference what a scanner would find. -/
def Recalls (memo : ScanMemo) (source path : String) : Prop :=
  ∃ held, ∀ scanner, (rememberingWith scanner source path memo).1 = held

/-- A call answers what is held, and what the scanner finds if nothing is; either way the answer
is the one used last then. -/
theorem rememberingWith_eq (scanner : String → SourceScan) (source path : String)
    (memo : ScanMemo) :
    rememberingWith scanner source path memo =
      let found := (memo.find? (scanKey source path)).getD (scanner source)
      (found, memo.keep (scanKey source path) found) :=
  memo.use_eq (scanKey source path) fun _ => scanner source

theorem keys_rememberingParser (source path : String) (memo : ScanMemo) :
    (rememberingParser source path memo).2.keys =
      let kept := memo.keys.filter (· ≠ scanKey source path) ++ [scanKey source path]
      kept.drop (kept.length - memo.capacity) := by
  unfold rememberingParser
  rw [rememberingWith_eq, Memo.keys_keep]

theorem capacity_afterParsing (memo : ScanMemo) (calls : List (String × String)) :
    (memo.afterParsing calls).capacity = memo.capacity := by
  induction calls generalizing memo with
  | nil => rfl
  | cons call rest ih =>
    refine (ih _).trans ?_
    simp [rememberingParser, rememberingWith_eq, Memo.keep]

theorem keys_afterParsing (capacity : Nat) (positive : 0 < capacity)
    (calls : List (String × String)) :
    (afterParsing (Memo.empty capacity positive) calls).keys =
      lastUsed capacity (calls.map fun call => scanKey call.1 call.2) := by
  induction calls using List.reverseRecOn with
  | nil => simp [afterParsing, Memo.keys, Memo.empty, lastUsed]
  | append_singleton calls call ih =>
    have hcapacity := capacity_afterParsing (Memo.empty capacity positive) calls
    rw [List.map_append, List.map_singleton, lastUsed_concat, ← ih]
    unfold afterParsing at hcapacity ⊢
    rw [List.foldl_append, List.foldl_cons, List.foldl_nil, keys_rememberingParser, hcapacity]
    rfl

theorem scans_iff {memo : ScanMemo} {source path : String} :
    memo.Scans source path ↔ scanKey source path ∉ memo.keys := by
  rw [← Memo.find?_eq_none_iff]
  unfold Scans
  simp only [rememberingWith_eq]
  cases memo.find? (scanKey source path) with
  | none => simp
  | some held =>
    simp only [Option.getD_some, reduceCtorEq, iff_false, not_forall]
    -- A scanner that finds one import more than is held is not the one that answers.
    exact ⟨fun _ => ⟨"" :: held.imports, []⟩, fun h => by
      simpa using congrArg (·.imports.length) h⟩

theorem recalls_iff {memo : ScanMemo} {source path : String} :
    memo.Recalls source path ↔ scanKey source path ∈ memo.keys := by
  rw [← not_iff_not, ← Memo.find?_eq_none_iff]
  unfold Recalls
  simp only [rememberingWith_eq]
  cases memo.find? (scanKey source path) with
  | none =>
    simp only [Option.getD_none, iff_true]
    rintro ⟨held, h⟩
    have hboth := (h fun _ => ⟨[], []⟩).trans (h fun _ => ⟨[""], []⟩).symm
    simp at hboth
  | some held =>
    simp only [Option.getD_some, reduceCtorEq, iff_false, not_not]
    exact ⟨held, fun _ => rfl⟩

/-- What a memory with room for a number of scans is after keys have been used: it holds the
last of the distinct keys, each once and by their last use, and no more than there is room for.
A text is scanned just if its key is not among them; otherwise the answer is from memory. -/
structure HoldsLastUsed (capacity : Nat) (history : List (String × String)) (memo : ScanMemo) :
    Prop where
  keys : memo.keys = history.dedup.drop (history.dedup.length - capacity)
  byLastUse : history.dedup.Pairwise (LastUsedBefore history)
  once : memo.keys.Nodup
  size : memo.size = min capacity history.dedup.length
  scans : ∀ source path,
    memo.Scans source path ↔ scanKey source path ∉ lastUsed capacity history
  recalls : ∀ source path,
    memo.Recalls source path ↔ scanKey source path ∈ lastUsed capacity history

/-- Whatever texts were parsed before, in whatever order, a memory holds the keys used last. -/
theorem a_memory_holds_the_keys_used_last (capacity : Nat) (positive : 0 < capacity)
    (calls : List (String × String)) :
    HoldsLastUsed capacity (calls.map fun call => scanKey call.1 call.2)
      (afterParsing (Memo.empty capacity positive) calls) := by
  have hkeys := keys_afterParsing capacity positive calls
  generalize calls.map (fun call => scanKey call.1 call.2) = history at hkeys ⊢
  generalize afterParsing (Memo.empty capacity positive) calls = memo at hkeys ⊢
  refine ⟨hkeys, pairwise_lastUsedBefore history, ?_, ?_, fun source path => ?_,
    fun source path => ?_⟩
  · rw [hkeys]
    exact (List.nodup_dedup history).drop
  · have hsize : memo.size = memo.keys.length := by simp [Memo.size, Memo.keys]
    rw [hsize, hkeys, lastUsed, List.length_drop]
    omega
  · rw [← hkeys, scans_iff]
  · rw [← hkeys, recalls_iff]

/-- Used again, the first text outlasts the second one when a third one comes. -/
theorem a_key_used_again_outlasts_a_later_one :
    let calls := [("a", "/A.sol"), ("b", "/B.sol"), ("a", "/A.sol"), ("c", "/C.sol")]
    let memo := afterParsing (Memo.empty 2 (by decide)) calls
    memo.keys = [scanKey "a" "/A.sol", scanKey "c" "/C.sol"] ∧
      memo.Recalls "a" "/A.sol" ∧ memo.Scans "b" "/B.sol" := by
  intro calls memo
  have hholds := a_memory_holds_the_keys_used_last 2 (by decide) calls
  exact ⟨hholds.keys.trans (by decide +kernel), (hholds.recalls _ _).mpr (by decide +kernel),
    (hholds.scans _ _).mpr (by decide +kernel)⟩

end ScanMemo

end SourceNames
