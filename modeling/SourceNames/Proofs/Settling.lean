-- Paths that lead somewhere through links. Following one is a walk with a number of links on
-- it, and a link that leads anywhere cannot be met again on the walk along its own target. So
-- a path that leads somewhere is settled without a loop, at the very place it leads to.

import SourceNames.Proofs.LinkFree

namespace SourceNames

/-! ## Places of links -/

mutual

def Node.linkPlaces : Node → List Place
  | .file _ _ => []
  | .link _ => [[]]
  | .folder entries => entriesLinkPlaces entries

def entriesLinkPlaces : List (EntryName × Node) → List Place
  | [] => []
  | (name, node) :: rest => node.linkPlaces.map (name.text :: ·) ++ entriesLinkPlaces rest

end

mutual

theorem Node.length_linkPlaces : ∀ node : Node, node.linkPlaces.length = node.linkCount
  | .file _ _ => rfl
  | .link _ => rfl
  | .folder entries => by
    rw [Node.linkPlaces, Node.linkCount]
    exact length_entriesLinkPlaces entries

theorem length_entriesLinkPlaces : ∀ entries : List (EntryName × Node),
    (entriesLinkPlaces entries).length = entriesLinkCount entries
  | [] => rfl
  | (name, node) :: rest => by
    rw [entriesLinkPlaces, entriesLinkCount, List.length_append, List.length_map,
      node.length_linkPlaces, length_entriesLinkPlaces rest]

end

theorem mem_entriesLinkPlaces {entries : List (EntryName × Node)} {name : EntryName} {child : Node}
    {place : Place} (hentry : (name, child) ∈ entries) (h : place ∈ child.linkPlaces) :
    name.text :: place ∈ entriesLinkPlaces entries := by
  induction entries with
  | nil => simp at hentry
  | cons first rest ih =>
    obtain ⟨other, node⟩ := first
    rw [entriesLinkPlaces, List.mem_append]
    rcases List.mem_cons.mp hentry with heq | hentry
    · cases heq
      exact Or.inl (List.mem_map_of_mem h)
    · exact Or.inr (ih hentry)

theorem Node.mem_linkPlaces {top : Node} {place : Place} {target : String}
    (h : top.at? place = some (.link target)) : place ∈ top.linkPlaces := by
  induction place generalizing top with
  | nil =>
    cases h
    simp [linkPlaces]
  | cons name rest ih =>
    rw [at?] at h
    cases hchild : top.child? name with
    | none => simp [hchild] at h
    | some child =>
      simp only [hchild] at h
      obtain ⟨entry, rfl, hentry⟩ := mem_entries_of_child? hchild
      cases top with
      | folder entries =>
        rw [linkPlaces]
        exact mem_entriesLinkPlaces hentry (ih h)
      | file bytes changed => simp [entries] at hentry
      | link target => simp [entries] at hentry

/-- There are no more different places of links than links. -/
theorem length_le_linkCount {top : Node} {places : List Place} (hnodup : places.Nodup)
    (h : ∀ place ∈ places, ∃ target, top.at? place = some (.link target)) :
    places.length ≤ top.linkCount := by
  rw [← top.length_linkPlaces]
  apply hnodup.length_le_of_subset
  intro place hplace
  obtain ⟨target, hlink⟩ := h place hplace
  exact Node.mem_linkPlaces hlink

/-! ## Walks -/

/-- The names that the target of a link is made of. -/
def targetNames (target : String) : List String := (segments target).filter Path.isName

/-- A walk along names from one place to another, with the number of links on it. Where a link
is met the walk goes on along its target and then along the names that are left. -/
inductive Walk (top : Node) : Place → List String → Nat → Place → Prop
  | stay (here : Place) : Walk top here [] 0 here
  | up {here there : Place} {rest : List String} {links : Nat} : (top.at? here).isSome →
      Walk top here.dropLast rest links there → Walk top here (".." :: rest) links there
  | enter {here there : Place} {name : String} {rest : List String} {node : Node} {links : Nat} :
      name ≠ ".." → top.at? (here ++ [name]) = some node → (∀ target, node ≠ .link target) →
      Walk top (here ++ [name]) rest links there → Walk top here (name :: rest) links there
  | through {here there : Place} {name target : String} {rest : List String} {links : Nat} :
      name ≠ ".." → top.at? (here ++ [name]) = some (.link target) →
      Walk top (targetStart here target) (targetNames target ++ rest) links there →
      Walk top here (name :: rest) (links + 1) there

section Walk

variable {top : Node} {here there other : Place} {parts front back : List String} {m n : Nat}

/-- Where segments are followed to, the walk along their names leads. -/
theorem walk_of_followSegments
    {onLink : Place → List String → Except LookupFault Place}
    (honLink : ∀ {start names place}, onLink start names = .ok place →
      ∃ links, Walk top start (names.filter Path.isName) links place)
    (h : followSegments top onLink here parts = .ok there) :
    ∃ links, Walk top here (parts.filter Path.isName) links there := by
  induction parts generalizing here with
  | nil =>
    rw [followSegments] at h
    cases h
    exact ⟨0, .stay _⟩
  | cons segment rest ih =>
    rw [followSegments] at h
    split at h
    · rename_i entries hat
      by_cases hname : Path.isName segment = true
      · rw [List.filter_cons_of_pos hname]
        simp only [hname, Bool.not_true, Bool.false_eq_true, if_false] at h
        by_cases hdots : segment = ".."
        · subst hdots
          obtain ⟨links, hwalk⟩ := ih ((if_pos rfl).symm.trans h)
          exact ⟨links, .up (by rw [hat]; rfl) hwalk⟩
        · rw [if_neg hdots] at h
          have hchild : top.at? (here ++ [segment]) = (Node.folder entries).child? segment := by
            rw [Node.at?_append, hat, Option.bind_some, Node.at?_singleton]
          split at h
          · simp at h
          · split at h
            · simp at h
            · rename_i target hlink
              obtain ⟨links, hwalk⟩ := honLink h
              rw [List.filter_append] at hwalk
              exact ⟨links + 1, .through hdots (hchild.trans hlink) hwalk⟩
            · rename_i node hnot hnode
              obtain ⟨links, hwalk⟩ := ih h
              refine ⟨links, .enter hdots (hchild.trans hnode) ?_ hwalk⟩
              rintro target rfl
              exact hnot target rfl
      · rw [List.filter_cons_of_neg hname]
        rw [Bool.not_eq_true] at hname
        simp only [hname, Bool.not_false, if_true] at h
        exact ih h
    · simp at h

theorem walk_of_follow {links : Nat} (h : follow top links here parts = .ok there) :
    ∃ n, Walk top here (parts.filter Path.isName) n there := by
  induction links generalizing here parts there with
  | zero => exact walk_of_followSegments (fun h => by simp at h) h
  | succ links ih => exact walk_of_followSegments (fun h => ih h) h

/-- A walk has one end and one number of links. -/
theorem Walk.unique (h : Walk top here parts m there) (h' : Walk top here parts n other) :
    m = n ∧ there = other := by
  induction h generalizing n other with
  | stay => cases h'; exact ⟨rfl, rfl⟩
  | up _ _ ih =>
    cases h' with
    | up _ hrest => exact ih hrest
    | enter hdots => exact absurd rfl hdots
    | through hdots => exact absurd rfl hdots
  | enter hdots hat hlink _ ih =>
    cases h' with
    | up => exact absurd rfl hdots
    | enter _ _ _ hrest => exact ih hrest
    | through _ hat' => rw [hat] at hat'; cases hat'; exact absurd rfl (hlink _)
  | through hdots hat _ ih =>
    cases h' with
    | up => exact absurd rfl hdots
    | enter _ hat' hlink => rw [hat] at hat'; cases hat'; exact absurd rfl (hlink _)
    | through _ hat' hrest =>
      rw [hat] at hat'
      cases hat'
      obtain ⟨rfl, rfl⟩ := ih hrest
      exact ⟨rfl, rfl⟩

/-- A walk along some names and then others is two walks, one after the other. -/
theorem Walk.split (h : Walk top here (front ++ back) n there) :
    ∃ between first second, Walk top here front first between ∧
      Walk top between back second there ∧ n = first + second := by
  generalize hparts : front ++ back = parts at h
  induction h generalizing front with
  | stay here =>
    obtain ⟨rfl, rfl⟩ := List.append_eq_nil_iff.mp hparts
    exact ⟨here, 0, 0, .stay here, .stay here, rfl⟩
  | @up here there rest links hhere hrest ih =>
    cases front with
    | nil =>
      rw [List.nil_append] at hparts
      subst hparts
      exact ⟨here, 0, links, .stay here, .up hhere hrest, (Nat.zero_add _).symm⟩
    | cons name more =>
      obtain ⟨rfl, hmore⟩ := List.cons.inj hparts
      obtain ⟨between, first, second, hfirst, hsecond, hn⟩ := ih hmore
      exact ⟨between, first, second, .up hhere hfirst, hsecond, hn⟩
  | @enter here there name rest node links hdots hat hlink hrest ih =>
    cases front with
    | nil =>
      rw [List.nil_append] at hparts
      subst hparts
      exact ⟨here, 0, links, .stay here, .enter hdots hat hlink hrest, (Nat.zero_add _).symm⟩
    | cons _ more =>
      obtain ⟨rfl, hmore⟩ := List.cons.inj hparts
      obtain ⟨between, first, second, hfirst, hsecond, hn⟩ := ih hmore
      exact ⟨between, first, second, .enter hdots hat hlink hfirst, hsecond, hn⟩
  | @through here there name target rest links hdots hat hrest ih =>
    cases front with
    | nil =>
      rw [List.nil_append] at hparts
      subst hparts
      exact ⟨here, 0, links + 1, .stay here, .through hdots hat hrest, (Nat.zero_add _).symm⟩
    | cons _ more =>
      obtain ⟨rfl, hmore⟩ := List.cons.inj hparts
      -- The names left over in front come after those of the target.
      have hmore : (targetNames target ++ more) ++ back = targetNames target ++ rest := by
        rw [List.append_assoc, ← hmore]
        rfl
      obtain ⟨between, first, second, hfirst, hsecond, hn⟩ := ih hmore
      exact ⟨between, first + 1, second, .through hdots hat hfirst, hsecond, by omega⟩

/-- A walk to something starts at something. -/
theorem Walk.isSome (h : Walk top here parts n there) (hthere : (top.at? there).isSome) :
    (top.at? here).isSome := by
  cases h with
  | stay => exact hthere
  | up hhere => exact hhere
  | enter _ hat => exact Node.isSome_of_append (by rw [hat]; rfl)
  | through _ hat => exact Node.isSome_of_append (by rw [hat]; rfl)

/-- No name on a walk holds a slash. -/
theorem Walk.no_slash (h : Walk top here parts n there) : ∀ part ∈ parts, '/' ∉ part.toList := by
  have hentry : ∀ {place : Place} {name : String}, (top.at? (place ++ [name])).isSome →
      '/' ∉ name.toList := fun hsome =>
    (Node.isEntryName_of_at? hsome _ (by simp)).2.2.2.1
  induction h with
  | stay => simp
  | up _ _ ih => exact List.forall_mem_cons.mpr ⟨by decide, ih⟩
  | enter _ hat _ _ ih => exact List.forall_mem_cons.mpr ⟨hentry (by rw [hat]; rfl), ih⟩
  | through _ hat _ ih =>
    exact List.forall_mem_cons.mpr ⟨hentry (by rw [hat]; rfl),
      fun part hpart => ih part (List.mem_append_right _ hpart)⟩

end Walk

/-- A link at a place, with the number of links on the walk along its target and its end. -/
def LeadsTo (top : Node) (place : Place) (links : Nat) (there : Place) : Prop :=
  ∃ target, top.at? place = some (.link target) ∧
    Walk top (targetStart place.dropLast target) (targetNames target) links there

theorem LeadsTo.unique {top : Node} {place there other : Place} {m n : Nat}
    (h : LeadsTo top place m there) (h' : LeadsTo top place n other) : m = n ∧ there = other := by
  obtain ⟨target, hlink, hwalk⟩ := h
  obtain ⟨target', hlink', hwalk'⟩ := h'
  rw [hlink] at hlink'
  cases hlink'
  exact hwalk.unique hwalk'

/-! ## Paths that are settled on the way -/

/-- A path that settling goes on from: a relative one, or one from the top without two dots. -/
def Path.IsOrigin (path : Path) : Prop :=
  path.anchor = .relative ∨ path.anchor = .root ∧ ".." ∉ path.parts

/-- The place that a path stands for when no name in it is a link. -/
def Host.spot (host : Host) (path : Path) : Place := (host.absolute path).parts

section Spots

variable {host : Host} {here : Path} {segment target : String}

theorem spot_relative (names : List String) : host.spot ⟨.relative, names⟩ =
    ((host.workingPlace ++ names).foldl (Path.push true) []).reverse := rfl

theorem spot_root {names : List String} (h : ".." ∉ names) : host.spot ⟨.root, names⟩ = names := by
  have hcollapse : host.absolute ⟨.root, names⟩ = ⟨.root, names⟩ :=
    Path.collapse_of_names (p := ⟨.root, names⟩) h
  unfold Host.spot
  rw [hcollapse]

theorem dots_not_mem_spot (h : here.IsOrigin) : ".." ∉ host.spot here := by
  obtain ⟨anchor, parts⟩ := here
  rcases h with rfl | ⟨rfl, hdots⟩
  · exact Path.dots_not_mem_collapse_root _
  · rw [spot_root hdots]
    exact hdots

theorem isOrigin_step (h : here.IsOrigin) : (here.step segment).IsOrigin := by
  rcases h with h | ⟨hroot, hdots⟩
  · exact Or.inl h
  · refine Or.inr ⟨hroot, ?_⟩
    have hanchor : (Anchor.root != .relative) = true := by decide
    simp only [Path.step, hroot, hanchor, List.mem_reverse]
    exact Path.dots_not_mem_push segment (by simpa using hdots)

/-- A step of settling goes on from the place of a path as following a name does. -/
theorem spot_step (host : Host) (h : here.IsOrigin) (hname : Path.isName segment = true) :
    host.spot (here.step segment) = onward (host.spot here) segment := by
  rw [onward_eq_push hname (dots_not_mem_spot h)]
  obtain ⟨anchor, parts⟩ := here
  rcases h with rfl | ⟨rfl, hdots⟩
  · have hstep : (Path.mk .relative parts).step segment =
        ⟨.relative, (Path.push false parts.reverse segment).reverse⟩ := rfl
    have hpush := @Path.foldl_push_of_push true
      (host.workingPlace.foldl (Path.push true) []) parts.reverse segment
    rw [List.reverse_reverse] at hpush
    rw [hstep, spot_relative, spot_relative, List.foldl_append, List.foldl_append, hpush,
      List.reverse_reverse]
  · have hstep : (Path.mk .root parts).step segment =
        ⟨.root, (Path.push true parts.reverse segment).reverse⟩ := rfl
    rw [hstep, spot_root hdots, spot_root]
    have hreverse : ".." ∉ parts.reverse := by simpa using hdots
    simpa using Path.dots_not_mem_push segment hreverse

theorem isOrigin_targetOrigin (h : here.IsOrigin) : (targetOrigin here target).IsOrigin := by
  unfold targetOrigin
  split
  · exact Or.inr ⟨rfl, List.not_mem_nil⟩
  · exact h

theorem spot_targetOrigin :
    host.spot (targetOrigin here target) = targetStart (host.spot here) target := by
  unfold targetOrigin targetStart
  split
  · exact spot_root List.not_mem_nil
  · rfl

theorem linkAt?_eq_some_iff :
    host.linkAt? here = some target ↔ host.top.at? (host.spot here) = some (.link target) := by
  unfold Host.linkAt? Host.spot
  split
  · rename_i other hlink
    rw [hlink]
    simp
  · rename_i hnot
    simp only [reduceCtorEq, false_iff]
    exact hnot target

end Spots

/-! ## Links in the course of being settled -/

/-- Notes that are right: a link that has been settled leads where it was settled at, and the
ones that are not settled yet are among the given. -/
structure LinkNotes.Right (host : Host) (busy : List Path) (notes : LinkNotes) : Prop where
  done : ∀ key settled, notes.lookup key = some (some settled) →
    settled.IsOrigin ∧ ∃ links, LeadsTo host.top (host.spot key) links (host.spot settled)
  pending : ∀ key, notes.lookup key = some none → key ∈ busy

/-- Links in the course of being settled: each at a place of its own, with no fewer links on
the walk along its target than are still to come. -/
structure Host.Busy (host : Host) (busy : List Path) (links : Nat) : Prop where
  nodup : (busy.map host.spot).Nodup
  longer : ∀ key ∈ busy, ∃ more there, LeadsTo host.top (host.spot key) more there ∧ links ≤ more

section Notes

variable {host : Host} {busy : List Path} {notes : LinkNotes} {next settled : Path}
variable {links fewer : Nat} {there : Place}

theorem LinkNotes.Right.begin (h : notes.Right host busy) :
    LinkNotes.Right host (next :: busy) ((next, none) :: notes) := by
  constructor
  · intro key settled hlookup
    rw [List.lookup_cons] at hlookup
    split at hlookup
    · cases hlookup
    · exact h.done key settled hlookup
  · intro key hlookup
    rw [List.lookup_cons] at hlookup
    split at hlookup
    · rename_i hkey
      rw [beq_iff_eq.mp hkey]
      exact List.mem_cons_self
    · exact List.mem_cons_of_mem _ (h.pending key hlookup)

theorem LinkNotes.Right.finish (h : notes.Right host (next :: busy)) (horigin : settled.IsOrigin)
    (hleads : LeadsTo host.top (host.spot next) links (host.spot settled)) :
    LinkNotes.Right host busy ((next, some settled) :: notes) := by
  constructor
  · intro key found hlookup
    rw [List.lookup_cons] at hlookup
    split at hlookup
    · rename_i hkey
      cases hlookup
      rw [beq_iff_eq.mp hkey]
      exact ⟨horigin, links, hleads⟩
    · exact h.done key found hlookup
  · intro key hlookup
    rw [List.lookup_cons] at hlookup
    split at hlookup
    · cases hlookup
    · rename_i hkey
      rcases List.mem_cons.mp (h.pending key hlookup) with rfl | hmem
      · simp at hkey
      · exact hmem

theorem Host.Busy.of_le (h : host.Busy busy links) (hle : fewer ≤ links) :
    host.Busy busy fewer := by
  refine ⟨h.nodup, fun key hkey => ?_⟩
  obtain ⟨more, there, hleads, hmore⟩ := h.longer key hkey
  exact ⟨more, there, hleads, by omega⟩

/-- A link with fewer links to come than there are is not one that is being settled. -/
theorem Host.Busy.spot_not_mem (h : host.Busy busy links)
    (hleads : LeadsTo host.top (host.spot next) fewer there) (hlt : fewer < links) :
    host.spot next ∉ busy.map host.spot := by
  intro hmem
  obtain ⟨key, hkey, hspot⟩ := List.mem_map.mp hmem
  obtain ⟨more, other, hother, hmore⟩ := h.longer key hkey
  rw [hspot] at hother
  have hsame := (hother.unique hleads).1
  omega

theorem Host.Busy.begin (h : host.Busy busy links)
    (hleads : LeadsTo host.top (host.spot next) fewer there) (hlt : fewer < links) :
    host.Busy (next :: busy) fewer := by
  refine ⟨?_, ?_⟩
  · rw [List.map_cons]
    exact List.nodup_cons.mpr ⟨h.spot_not_mem hleads hlt, h.nodup⟩
  · refine List.forall_mem_cons.mpr ⟨⟨fewer, there, hleads, Nat.le_refl _⟩, ?_⟩
    exact (h.of_le (Nat.le_of_lt hlt)).longer

theorem Host.Busy.length_le (h : host.Busy busy links) : busy.length ≤ host.top.linkCount := by
  rw [← List.length_map host.spot]
  apply length_le_linkCount h.nodup
  intro place hplace
  obtain ⟨key, hkey, rfl⟩ := List.mem_map.mp hplace
  obtain ⟨_, _, ⟨target, hlink, -⟩, -⟩ := h.longer key hkey
  exact ⟨target, hlink⟩

end Notes

/-! ## Settling -/

/-- Work that settles segments where they lead, as long as the links that it may be settling at
a time and those being settled already are more than there are in the tree. -/
def Host.Settles (host : Host) (limit : Nat)
    (work : LinkNotes → Path → List String → Except String (Path × LinkNotes)) : Prop :=
  ∀ notes busy here parts links there, here.IsOrigin →
    Walk host.top (host.spot here) (parts.filter Path.isName) links there →
    notes.Right host busy → host.Busy busy links → host.top.linkCount < limit + busy.length →
    ∃ settled after, work notes here parts = .ok (settled, after) ∧ settled.IsOrigin ∧
      host.spot settled = there ∧ LinkNotes.Right host busy after

variable {host : Host}

theorem settles_zero
    (work : LinkNotes → Path → List String → Except String (Path × LinkNotes)) :
    host.Settles 0 work := by
  intro notes busy here parts links there _ _ _ hbusy hlimit
  have hlength := hbusy.length_le
  omega

theorem settles_settleSegments {limit : Nat}
    {onLink : LinkNotes → Path → List String → Except String (Path × LinkNotes)}
    (honLink : host.Settles limit onLink) :
    host.Settles (limit + 1) (settleSegments host.linkAt? onLink) := by
  intro notes busy here parts
  induction parts generalizing notes here with
  | nil =>
    intro links there horigin hwalk hnotes _ _
    cases hwalk
    exact ⟨here, notes, rfl, horigin, rfl, hnotes⟩
  | cons segment rest ih =>
    intro links there horigin hwalk hnotes hbusy hlimit
    rw [settleSegments]
    by_cases hname : Path.isName segment = true
    · rw [List.filter_cons_of_pos hname] at hwalk
      simp only [hname, Bool.not_true, Bool.false_eq_true, if_false]
      have hnext : (here.step segment).IsOrigin := isOrigin_step horigin
      have hspot := spot_step host horigin hname
      by_cases hdots : segment = ".."
      · subst hdots
        rw [if_pos rfl]
        rw [onward_dots] at hspot
        cases hwalk with
        | up _ hrest =>
          rw [← hspot] at hrest
          exact ih _ _ _ _ hnext hrest hnotes hbusy hlimit
        | enter hne => exact absurd rfl hne
        | through hne => exact absurd rfl hne
      · rw [if_neg hdots]
        rw [onward_of_name hname hdots] at hspot
        cases hwalk with
        | up => exact absurd rfl hdots
        | @enter _ _ _ _ node _ _ hat hlink hrest =>
          have hnone : host.linkAt? (here.step segment) = none := by
            rw [Option.eq_none_iff_forall_ne_some]
            intro target htarget
            rw [linkAt?_eq_some_iff, hspot, hat] at htarget
            cases htarget
            exact hlink target rfl
          rw [hnone]
          rw [← hspot] at hrest
          exact ih _ _ _ _ hnext hrest hnotes hbusy hlimit
        | @through _ _ _ target _ links _ hat hrest =>
          have htarget : host.linkAt? (here.step segment) = some target := by
            rw [linkAt?_eq_some_iff, hspot, hat]
          obtain ⟨between, first, second, hfirst, hsecond, hlinks⟩ := hrest.split
          have hleads : LeadsTo host.top (host.spot (here.step segment)) first between := by
            refine ⟨target, hspot ▸ hat, ?_⟩
            rwa [hspot, List.dropLast_concat]
          rw [htarget]
          simp only
          cases hlookup : notes.lookup (here.step segment) with
          | some found =>
            cases found with
            | some settled =>
              obtain ⟨hsettled, _, hleads'⟩ := hnotes.done _ _ hlookup
              obtain ⟨-, rfl⟩ := hleads.unique hleads'
              exact ih _ _ _ _ hsettled hsecond hnotes (hbusy.of_le (by omega)) hlimit
            | none =>
              -- A link that is being settled has more links to come than this one.
              refine absurd ?_ (hbusy.spot_not_mem hleads (by omega))
              exact List.mem_map_of_mem (hnotes.pending _ hlookup)
          | none =>
            rw [← spot_targetOrigin] at hfirst
            obtain ⟨settled, after, hwork, hsettled, rfl, hafter⟩ :=
              honLink _ _ _ _ _ _ (isOrigin_targetOrigin horigin) hfirst hnotes.begin
                (hbusy.begin hleads (by omega)) (by rw [List.length_cons]; omega)
            rw [hwork]
            exact ih _ _ _ _ hsettled hsecond (hafter.finish hsettled hleads)
              (hbusy.of_le (by omega)) hlimit
    · rw [List.filter_cons_of_neg hname] at hwalk
      rw [Bool.not_eq_true] at hname
      simp only [hname, Bool.not_false, if_true]
      exact ih _ _ _ _ horigin hwalk hnotes hbusy hlimit

theorem settles_settle (depth : Nat) : host.Settles (depth + 1) (settle host.linkAt? depth) := by
  induction depth with
  | zero => exact settles_settleSegments (settles_zero _)
  | succ depth ih => exact settles_settleSegments ih

namespace Host

variable {path : Path} {place : Place} {node : Node}

/-- A place that a path leads to is one that its names lead to. -/
theorem walk_of_place (h : host.place path = .ok place) :
    ∃ links, Walk host.top (host.startOf path) (path.parts.filter Path.isName) links place :=
  walk_of_follow h

theorem absolute_of_isOrigin (h : path.IsOrigin) :
    host.absolute path = ⟨.root, host.spot path⟩ := by
  obtain ⟨anchor, parts⟩ := path
  rcases h with rfl | ⟨rfl, -⟩ <;> rfl

/-- The path that settling a path starts from. -/
theorem origin_of_path (h : ".." ∉ host.startOf path) :
    let start : Path := ⟨if path.anchor = .relative then .relative else .root, []⟩
    start.IsOrigin ∧ host.spot start = host.startOf path := by
  intro start
  unfold startOf at h ⊢
  cases hanchor : path.anchor with
  | relative =>
    rw [hanchor] at h
    have hstart : start = ⟨.relative, []⟩ := by simp [start, hanchor]
    refine ⟨Or.inl (by rw [hstart]), ?_⟩
    rw [hstart, spot_relative, List.append_nil, Path.foldl_push_names h, List.append_nil,
      List.reverse_reverse]
  | root | doubleRoot =>
    have hstart : start = ⟨.root, []⟩ := by simp [start, hanchor]
    rw [hstart]
    exact ⟨Or.inr ⟨rfl, List.not_mem_nil⟩, spot_root List.not_mem_nil⟩

theorem linkCount_le_settleDepth (host : Host) : host.top.linkCount ≤ host.settleDepth := by
  unfold settleDepth
  exact Nat.le_mul_of_pos_right _ (by omega)

/-- A path that leads to something settles at the place of that, whatever links there are. -/
theorem settled_of_leads (hplace : host.place path = .ok place) (h : (host.top.at? place).isSome) :
    host.settled path = .ok ⟨.root, place⟩ := by
  obtain ⟨links, hwalk⟩ := walk_of_place hplace
  have hstart := (Node.namesOnly_of_at? (hwalk.isSome h)).not_dots
  obtain ⟨horigin, hspot⟩ := origin_of_path hstart
  rw [← hspot] at hwalk
  have hnotes : LinkNotes.Right host [] [] := ⟨by simp, by simp⟩
  have hbusy : host.Busy [] links := ⟨by simp, by simp⟩
  have hdepth := host.linkCount_le_settleDepth
  obtain ⟨settled, after, hsettle, hsettled, rfl, -⟩ :=
    settles_settle host.settleDepth [] [] _ path.parts links place horigin hwalk hnotes hbusy
      (by omega)
  unfold Host.settled
  simp only [hsettle]
  rw [absolute_of_isOrigin hsettled]

theorem settled_of_node (h : host.node path = .ok node) :
    ∃ place, host.place path = .ok place ∧ host.settled path = .ok ⟨.root, place⟩ := by
  obtain ⟨place, hplace, hat⟩ := node_eq_ok_iff.mp h
  exact ⟨place, hplace, settled_of_leads hplace (by rw [hat]; rfl)⟩

end Host

end SourceNames
