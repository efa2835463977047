-- Disks without symbolic links. There a path leads, if anywhere, to the place that is left
-- when each two dots take back the name before them, and it settles at that same place. What
-- is asked of a path is then answered by the tree alone.

import SourceNames.Package
import SourceNames.Proofs.NormalForms
import SourceNames.Proofs.Spelling
import SourceNames.Proofs.Trees

namespace SourceNames

/-- A disk on which nothing is a symbolic link. -/
def Host.LinkFree (host : Host) : Prop := host.top.linkCount = 0

instance (host : Host) : Decidable host.LinkFree := by
  unfold Host.LinkFree; infer_instance

/-! ## Following a path -/

/-- Where a segment leads from a place, if it leads anywhere. -/
def onward (here : Place) (segment : String) : Place :=
  if !Path.isName segment then here
  else if segment = ".." then here.dropLast
  else here ++ [segment]

theorem onward_of_not_isName {here : Place} {segment : String}
    (h : Path.isName segment = false) : onward here segment = here := by
  simp [onward, h]

theorem onward_dots (here : Place) : onward here ".." = here.dropLast := by
  have hname : Path.isName ".." = true := by decide
  simp [onward, hname]

theorem onward_of_name {here : Place} {segment : String} (h : Path.isName segment = true)
    (hdots : segment ≠ "..") : onward here segment = here ++ [segment] := by
  simp [onward, h, hdots]

section Follow

variable {top : Node} {onLink : Place → List String → Except LookupFault Place}
variable {here place : Place}

theorem isSome_dropLast (h : (top.at? here).isSome) : (top.at? here.dropLast).isSome := by
  rw [← List.take_append_drop (here.length - 1) here] at h
  rw [List.dropLast_eq_take]
  exact Node.isSome_of_append h

/-- A segment is followed from a folder to something that is there. -/
theorem followSegments_cons (hlinks : top.linkCount = 0) (segment : String)
    (rest : List String) :
    followSegments top onLink here (segment :: rest) = .ok place ↔
      (∃ entries, top.at? here = some (.folder entries)) ∧
        (top.at? (onward here segment)).isSome ∧
        followSegments top onLink (onward here segment) rest = .ok place := by
  rw [followSegments]
  split
  · rename_i entries hat
    have hhere : (top.at? here).isSome := by rw [hat]; rfl
    have hfolder : ∃ entries, top.at? here = some (.folder entries) := ⟨entries, hat⟩
    by_cases hname : Path.isName segment = true
    · by_cases hdots : segment = ".."
      · subst hdots
        have hup := isSome_dropLast hhere
        simp [hname, onward_dots, hup, hfolder]
      · have hchild : top.at? (here ++ [segment]) = (Node.folder entries).child? segment := by
          rw [Node.at?_append, hat, Option.bind_some, Node.at?_singleton]
        rw [onward_of_name hname hdots]
        simp only [hname, hdots, hfolder, Bool.not_true, Bool.false_eq_true, if_false, true_and]
        by_cases hlong : longestName < segment.utf8ByteSize
        · -- Nothing on the disk has a name that is too long to be looked up.
          simp only [hlong, if_true, reduceCtorEq, false_iff, not_and]
          intro hnext
          have hentry := Node.isEntryName_of_at? hnext segment (by simp)
          exact absurd hentry.2.2.2.2 (by omega)
        · simp only [hlong, if_false]
          cases hfound : (Node.folder entries).child? segment with
          | none => simp [hchild, hfound]
          | some node =>
            cases node with
            | link target => exact absurd (hchild.trans hfound) (Node.at?_ne_link hlinks _ _)
            | file bytes changed => simp [hchild, hfound]
            | folder below => simp [hchild, hfound]
    · rw [Bool.not_eq_true] at hname
      simp [hname, onward_of_not_isName, hhere, hfolder]
  · rename_i hnot
    simp only [reduceCtorEq, false_iff, not_and]
    rintro ⟨entries, hat⟩
    exact absurd hat (hnot entries)

theorem followSegments_append (hlinks : top.linkCount = 0) (front back : List String) :
    followSegments top onLink here (front ++ back) = .ok place ↔
      ∃ there, followSegments top onLink here front = .ok there ∧
        followSegments top onLink there back = .ok place := by
  induction front generalizing here with
  | nil => simp [followSegments]
  | cons segment rest ih =>
    simp only [List.cons_append, followSegments_cons hlinks, ih]
    constructor
    · rintro ⟨hfolder, hnext, there, hrest, hback⟩
      exact ⟨there, ⟨hfolder, hnext, hrest⟩, hback⟩
    · rintro ⟨there, ⟨hfolder, hnext, hrest⟩, hback⟩
      exact ⟨hfolder, hnext, there, hrest, hback⟩

theorem eq_of_followSegments (hlinks : top.linkCount = 0) {parts : List String}
    (h : followSegments top onLink here parts = .ok place) : place = parts.foldl onward here := by
  induction parts generalizing here with
  | nil =>
    rw [followSegments] at h
    exact (Except.ok.inj h).symm
  | cons segment rest ih =>
    rw [followSegments_cons hlinks] at h
    exact ih h.2.2

theorem isSome_of_followSegments (hlinks : top.linkCount = 0) {parts : List String}
    (h : followSegments top onLink here parts = .ok place) (hplace : (top.at? place).isSome) :
    (top.at? here).isSome := by
  cases parts with
  | nil =>
    rw [followSegments] at h
    rwa [Except.ok.inj h]
  | cons segment rest =>
    rw [followSegments_cons hlinks] at h
    obtain ⟨⟨entries, hat⟩, -⟩ := h
    simp [hat]

/-- Names of entries lead to what is at the end of them. -/
theorem followSegments_names (hlinks : top.linkCount = 0) {names : List String}
    (h : (top.at? (here ++ names)).isSome) :
    followSegments top onLink here names = .ok (here ++ names) := by
  induction names generalizing here with
  | nil => simp [followSegments]
  | cons name rest ih =>
    have hentry := Node.isEntryName_of_at? h name (by simp)
    have hname : Path.isName name = true := by simp [Path.isName, hentry.1, hentry.2.1]
    have hfolder := Node.folder_of_append (List.cons_ne_nil name rest) h
    rw [List.append_cons here name rest] at h ⊢
    rw [followSegments_cons hlinks, onward_of_name hname hentry.2.2.1]
    exact ⟨hfolder, Node.isSome_of_append h, ih h⟩

theorem foldl_onward_names {names : List String} (h : NamesOnly names) :
    names.foldl onward here = here ++ names := by
  induction names generalizing here with
  | nil => simp
  | cons name rest ih =>
    have hname := h.isName name List.mem_cons_self
    have hrest : NamesOnly rest := fun part hpart => h part (List.mem_cons_of_mem _ hpart)
    rw [List.foldl_cons, onward_of_name hname (h name List.mem_cons_self).2.2, ih hrest,
      ← List.append_cons]

theorem long_of_followSegments (hlinks : top.linkCount = 0) {parts : List String}
    (h : followSegments top onLink here parts = .error .nameTooLong) :
    ∃ part ∈ parts, longestName < part.utf8ByteSize := by
  induction parts generalizing here with
  | nil => simp [followSegments] at h
  | cons segment rest ih =>
    by_cases hlong : longestName < segment.utf8ByteSize
    · exact ⟨segment, List.mem_cons_self, hlong⟩
    · have hrest : ∃ there, followSegments top onLink there rest = .error .nameTooLong := by
        rw [followSegments] at h
        split at h
        · rename_i entries hat
          by_cases hname : Path.isName segment = true
          · simp only [hname, hlong, Bool.not_true, Bool.false_eq_true, if_false] at h
            by_cases hdots : segment = ".."
            · exact ⟨_, (if_pos hdots).symm.trans h⟩
            · rw [if_neg hdots] at h
              split at h
              · simp at h
              · rename_i target hlink
                refine absurd ?_ (Node.at?_ne_link hlinks (here ++ [segment]) target)
                rw [Node.at?_append, hat, Option.bind_some, Node.at?_singleton, hlink]
              · exact ⟨_, h⟩
          · simp only [hname, Bool.not_false, if_true] at h
            exact ⟨_, h⟩
        · simp at h
      obtain ⟨there, hrest⟩ := hrest
      obtain ⟨part, hpart, hlong⟩ := ih hrest
      exact ⟨part, List.mem_cons_of_mem _ hpart, hlong⟩

end Follow

/-! ## Lexical places -/

theorem dots_not_mem_onward {here : Place} (segment : String) (h : ".." ∉ here) :
    ".." ∉ onward here segment := by
  unfold onward
  split
  · exact h
  · split
    · exact fun hm => h (List.dropLast_subset here hm)
    · rename_i hdots
      simp only [List.mem_append, List.mem_singleton, not_or]
      exact ⟨h, Ne.symm hdots⟩

theorem namesOnly_foldl_onward {here : Place} (parts : List String) (h : NamesOnly here) :
    NamesOnly (parts.foldl onward here) := by
  induction parts generalizing here with
  | nil => exact h
  | cons segment rest ih =>
    refine ih fun part hpart => ?_
    unfold onward at hpart
    split at hpart
    · exact h part hpart
    · rename_i hname
      split at hpart
      · exact h part (List.dropLast_subset here hpart)
      · rename_i hdots
        rcases List.mem_append.mp hpart with hpart | hpart
        · exact h part hpart
        · rw [List.mem_singleton.mp hpart]
          simp only [Path.isName] at hname
          simp_all

theorem onward_eq_push {here : Place} {segment : String} (hname : Path.isName segment = true)
    (h : ".." ∉ here) : onward here segment = (Path.push true here.reverse segment).reverse := by
  by_cases hdots : segment = ".."
  · subst hdots
    rw [onward_dots, Path.push_dots (by simpa using h), List.tail_reverse, List.reverse_reverse]
  · rw [onward_of_name hname hdots, Path.push_of_ne_dots true _ hdots, List.reverse_cons,
      List.reverse_reverse]

/-- Where segments lead is what is left of them when two dots take back the name before. -/
theorem foldl_onward_eq {here : Place} (parts : List String) (h : ".." ∉ here) :
    parts.foldl onward here =
      ((parts.filter Path.isName).foldl (Path.push true) here.reverse).reverse := by
  induction parts generalizing here with
  | nil => simp
  | cons segment rest ih =>
    rw [List.foldl_cons, ih (dots_not_mem_onward segment h)]
    by_cases hname : Path.isName segment = true
    · rw [List.filter_cons_of_pos hname, List.foldl_cons, onward_eq_push hname h,
        List.reverse_reverse]
    · rw [List.filter_cons_of_neg hname, onward_of_not_isName (by simpa using hname)]

/-- Without links a path is settled by its names alone. -/
theorem settleSegments_of_no_links {linkAt? : Path → Option String}
    {onLink : LinkNotes → Path → List String → Except String (Path × LinkNotes)}
    (h : ∀ path, linkAt? path = none) (notes : LinkNotes) (here : Path) (parts : List String) :
    settleSegments linkAt? onLink notes here parts =
      .ok ((parts.filter Path.isName).foldl Path.step here, notes) := by
  induction parts generalizing here with
  | nil => rfl
  | cons segment rest ih =>
    rw [settleSegments]
    by_cases hname : Path.isName segment = true
    · rw [List.filter_cons_of_pos hname, List.foldl_cons]
      simp only [hname, Bool.not_true, Bool.false_eq_true, if_false, h, ih, ite_self]
    · rw [List.filter_cons_of_neg hname]
      simp only [hname, Bool.not_false, if_true, ih]

namespace Host

variable {host : Host} {path : Path} {place : Place} {node : Node}

theorem place_eq_followSegments (host : Host) (path : Path) :
    host.place path = followSegments host.top (follow host.top (mostLinks - 1))
      (host.startOf path) path.parts := rfl

theorem node_eq_ok_iff :
    host.node path = .ok node ↔ ∃ place, host.place path = .ok place ∧
      host.top.at? place = some node := by
  unfold Host.node
  cases hplace : host.place path with
  | error fault => simp
  | ok place => cases hat : host.top.at? place <;> simp [hat]

/-- Further names of entries lead on from the place of a path. -/
theorem place_below (hlinks : host.LinkFree) {names : List String}
    (hplace : host.place path = .ok place) (h : (host.top.at? (place ++ names)).isSome) :
    host.place { path with parts := path.parts ++ names } = .ok (place ++ names) := by
  rw [place_eq_followSegments] at hplace ⊢
  exact (followSegments_append hlinks _ _).mpr ⟨place, hplace, followSegments_names hlinks h⟩

theorem node_below_iff (hlinks : host.LinkFree) (path : Path) {names : List String}
    (hnames : NamesOnly names) :
    host.node { path with parts := path.parts ++ names } = .ok node ↔
      ∃ place, host.place path = .ok place ∧ host.top.at? (place ++ names) = some node := by
  have hstart : host.startOf { path with parts := path.parts ++ names } = host.startOf path := rfl
  rw [node_eq_ok_iff]
  constructor
  · rintro ⟨place, hplace, hat⟩
    rw [place_eq_followSegments, hstart, followSegments_append hlinks] at hplace
    obtain ⟨there, hthere, hplace⟩ := hplace
    rw [eq_of_followSegments hlinks hplace, foldl_onward_names hnames] at hat
    exact ⟨there, hthere, hat⟩
  · rintro ⟨there, hthere, hat⟩
    have hsome : (host.top.at? (there ++ names)).isSome := by rw [hat]; rfl
    exact ⟨_, place_below hlinks hthere hsome, hat⟩

theorem node_root_iff (hlinks : host.LinkFree) (hplace : NamesOnly place) :
    host.node ⟨.root, place⟩ = .ok node ↔ host.top.at? place = some node := by
  have hroot : host.place ⟨.root, []⟩ = .ok [] := rfl
  refine (node_below_iff hlinks ⟨.root, []⟩ hplace).trans ?_
  simp [hroot]

theorem linkAt?_eq_none (hlinks : host.LinkFree) (path : Path) : host.linkAt? path = none := by
  unfold linkAt?
  split
  · rename_i target hlink
    exact absurd hlink (Node.at?_ne_link hlinks _ _)
  · rfl

theorem settle_eq (hlinks : host.LinkFree) (depth : Nat) (here : Path) (parts : List String) :
    settle host.linkAt? depth [] here parts =
      .ok ((parts.filter Path.isName).foldl Path.step here, []) := by
  have hnone := linkAt?_eq_none hlinks
  cases depth <;> exact settleSegments_of_no_links hnone _ _ _

/-- A path is settled where its names lead. -/
theorem settled_eq (hlinks : host.LinkFree) (hstart : ".." ∉ host.startOf path) :
    host.settled path = .ok ⟨.root, path.parts.foldl onward (host.startOf path)⟩ := by
  unfold settled
  simp only [settle_eq hlinks, Path.foldl_step]
  rw [foldl_onward_eq _ hstart]
  by_cases hanchor : path.anchor = .relative
  · have hwork : host.startOf path = host.workingPlace := by simp [startOf, hanchor]
    rw [hwork] at hstart ⊢
    simp only [hanchor, if_true, absolute]
    rw [Path.collapse_root, List.foldl_append, Path.foldl_push_names hstart, List.append_nil]
    refine congrArg (fun stack : List String => Except.ok (Path.mk .root stack.reverse)) ?_
    exact Path.foldl_push_collapsed _ _
  · have hwork : host.startOf path = [] := by
      unfold startOf
      split
      · contradiction
      · rfl
    rw [hwork]
    simp only [hanchor, if_false, absolute]
    refine congrArg Except.ok (Path.collapse_of_names ?_)
    exact Path.dots_not_mem_collapse_root _

theorem settled_root (hlinks : host.LinkFree) (hplace : NamesOnly place) :
    host.settled ⟨.root, place⟩ = .ok ⟨.root, place⟩ := by
  have hstart : ".." ∉ host.startOf ⟨.root, place⟩ := List.not_mem_nil
  rw [settled_eq hlinks hstart]
  simp only [foldl_onward_names hplace]
  rfl

/-- Where a path leads to something, it settles at the place of that. -/
theorem settled_of_place (hlinks : host.LinkFree) (hplace : host.place path = .ok place)
    (h : (host.top.at? place).isSome) : host.settled path = .ok ⟨.root, place⟩ := by
  rw [place_eq_followSegments] at hplace
  have hstart := Node.namesOnly_of_at? (isSome_of_followSegments hlinks hplace h)
  rw [settled_eq hlinks hstart.not_dots, eq_of_followSegments hlinks hplace]

/-! ## Questions about a path -/

theorem openFile_eq_ok_iff {bytes : List UInt8} {changed : Int} :
    host.openFile path = .ok (bytes, changed) ↔ host.node path = .ok (.file bytes changed) := by
  unfold openFile
  cases hnode : host.node path with
  | error fault => simp
  | ok node => cases node <;> simp

theorem existsAt_eq_true_iff : host.existsAt path = .ok true ↔ ∃ node, host.node path = .ok node := by
  unfold existsAt asks
  cases hnode : host.node path with
  | error fault => cases fault <;> simp
  | ok node => simp

theorem isFile_eq_true_iff :
    host.isFile path = .ok true ↔ ∃ bytes changed, host.node path = .ok (.file bytes changed) := by
  unfold isFile asks
  cases hnode : host.node path with
  | error fault => cases fault <;> simp
  | ok node => cases node <;> simp

/-- Whether a path leads to a file can be told unless a name in it is too long. -/
theorem exists_isFile (hlinks : host.LinkFree)
    (hshort : ∀ part ∈ path.parts, part.utf8ByteSize ≤ longestName) :
    ∃ isFile, host.isFile path = .ok isFile := by
  unfold isFile asks
  split
  · exact ⟨_, rfl⟩
  · rename_i hlong
    unfold Host.node at hlong
    split at hlong
    · rename_i fault hplace
      cases hlong
      obtain ⟨part, hpart, hsize⟩ := long_of_followSegments hlinks hplace
      exact absurd (hshort part hpart) (by omega)
    · split at hlong <;> simp at hlong
  · exact ⟨_, rfl⟩

/-! ## Spellings below a place -/

theorem list?_eq_some_iff {names : List EntryName} :
    host.list? path = .ok (some names) ↔
      ∃ entries, host.node path = .ok (.folder entries) ∧ names = entries.map (·.1) := by
  unfold list?
  cases hnode : host.node path with
  | error fault => cases fault <;> simp
  | ok node => cases node <;> simp [eq_comm]

/-- Names are entries that lead down from a place just if there is something at the end of
them. -/
theorem descends_iff (hlinks : host.LinkFree) (hplace : (host.top.at? place).isSome)
    (names : List EntryName) :
    host.Descends ⟨.root, place⟩ names ↔
      (host.top.at? (place ++ names.map (·.text))).isSome := by
  induction names generalizing place with
  | nil => simpa using ⟨fun _ => hplace, fun _ => .stay _⟩
  | cons entry rest ih =>
    have hproper := Node.namesOnly_of_at? hplace
    rw [List.map_cons, List.append_cons]
    constructor
    · intro h
      cases h with
      | @enter _ names _ _ hlist hentry hrest =>
        obtain ⟨entries, hnode, rfl⟩ := list?_eq_some_iff.mp hlist
        rw [node_root_iff hlinks hproper] at hnode
        have hchild : (host.top.at? (place ++ [entry.text])).isSome := by
          rw [Node.at?_append, hnode, Option.bind_some, Node.at?_singleton,
            Node.isSome_child?_iff]
          exact ⟨entry, hentry, rfl⟩
        exact (ih hchild).mp hrest
    · intro h
      have hchild := Node.isSome_of_append h
      obtain ⟨entries, hat⟩ := Node.folder_of_append (by simp) hchild
      have hnode := (node_root_iff hlinks hproper).mpr hat
      rw [Node.at?_append, hat, Option.bind_some, Node.at?_singleton,
        Node.isSome_child?_iff] at hchild
      obtain ⟨other, hother, htext⟩ := hchild
      rw [entryName_ext htext] at hother
      refine .enter (list?_eq_some_iff.mpr ⟨entries, hnode, rfl⟩) hother ((ih ?_).mpr h)
      exact Node.isSome_of_append h

theorem spells_iff (hlinks : host.LinkFree) (hplace : (host.top.at? place).isSome)
    (name : String) :
    host.Spells ⟨.root, place⟩ name ↔ (host.top.at? (place ++ segments name)).isSome := by
  constructor
  · rintro ⟨entries, hdescends, hnames⟩
    rw [← hnames]
    exact (descends_iff hlinks hplace entries).mp hdescends
  · intro h
    have hvalid : ∀ part ∈ segments name, IsEntryName part := fun part hpart =>
      Node.isEntryName_of_at? h part (List.mem_append_right _ hpart)
    have hnames : ((segments name).pmap EntryName.mk hvalid).map (·.text) = segments name := by
      rw [List.map_pmap, List.pmap_eq_map, List.map_id']
    rw [← hnames] at h
    exact ⟨_, (descends_iff hlinks hplace _).mpr h, hnames⟩

end Host

end SourceNames
