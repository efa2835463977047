-- Where a library's file is looked up. On a disk without links the library is taken from the
-- first directory of the search order that it is installed in, and the name is found just if
-- a text of that name lies below that directory and the library's description can be read.

import Mathlib.Data.List.Infix
import SourceNames.Proofs.LinkFree
import SourceNames.Proofs.Loading
import SourceNames.Proofs.PackageRoots

namespace SourceNames

/-! ## The search order -/

/-- The directories that a library is looked for in: the installation directory of the place
and of each folder above it, nearest first and none inside another, then those that the
environment lists, and then the further ones. -/
def lookupOrder (host : Host) (place : Place) (extra : List Path) : List Path :=
  (place.inits.reverse.filter (·.getLast? ≠ some modulesDirectory)).map
      (fun above => ⟨.root, above ++ [modulesDirectory]⟩) ++
    listedPaths (host.env.value "NODE_PATH") ++ extra

theorem tails_eq (anchor : Anchor) (names : List String) :
    Path.tails anchor names = names.tails.map fun rest => ⟨anchor, rest.reverse⟩ := by
  induction names with
  | nil => rfl
  | cons name rest ih => rw [Path.tails, ih, List.tails_cons, List.map_cons]

theorem ancestorModules_eq (place : Place) :
    ancestorModules ⟨.root, place⟩ =
      (place.inits.reverse.filter (·.getLast? ≠ some modulesDirectory)).map
        fun above => ⟨.root, above ++ [modulesDirectory]⟩ := by
  have hinits : place.inits.reverse = place.reverse.tails.map List.reverse := by
    rw [List.tails_reverse]
    simp
  unfold ancestorModules Path.withAncestors
  rw [tails_eq, hinits, List.filter_map, List.filter_map, List.map_map, List.map_map]
  have hlast : ∀ above : List String,
      (Path.mk .root above.reverse).name ≠ modulesDirectory ↔
        above.reverse.getLast? ≠ some modulesDirectory := by
    intro above
    rw [Path.name, List.getLastD_eq_getLast?]
    cases above.reverse.getLast? with
    | none => simp [modulesDirectory]
    | some last => simp
  simp only [Function.comp_def, hlast]

/-- The name of a library is itself well formed. -/
theorem isSourceName_libraryName {name : String} (hname : IsSourceName name)
    (h : libraryName name ≠ name) : IsSourceName (libraryName name) := by
  have hsplit := libraryName_append h
  have hbegins : ∀ lead, beginsWith lead name = false →
      beginsWith lead (libraryName name) = false := by
    intro lead hlead
    rw [Bool.eq_false_iff] at hlead ⊢
    intro hbegin
    obtain ⟨rest, hrest⟩ := beginsWith_iff.mp hbegin
    refine hlead (beginsWith_iff.mpr ?_)
    rw [hsplit, hrest]
    refine ⟨rest ++ "/" ++ joinSegments ((segments name).drop (scopeDepth name)), ?_⟩
    simp only [String.append_assoc]
  have hproper : ∀ segment ∈ segments (libraryName name),
      segment ≠ "" ∧ segment ≠ "." ∧ segment ≠ ".." := by
    intro segment hm
    rw [segments_libraryName] at hm
    exact hname.proper segment (List.mem_of_mem_take hm)
  refine ⟨?_, hbegins "/" hname.not_absolute, hbegins "." hname.not_relative, ?_, hproper⟩
  · intro hempty
    rw [hempty] at hproper
    exact (hproper "" (by decide)).1 rfl
  · intro hm
    apply hname.no_backslash
    rw [hsplit]
    simp [hm]

theorem namesOnly_packageFile : NamesOnly [packageFile] := by
  intro part hpart
  rw [List.mem_singleton.mp hpart]
  decide

/-! ## The first directory that a library is installed in -/

namespace Host

variable {host : Host} {directory : Path} {directories : List Path} {library : String}
variable {base : Place}

/-- A library is installed in a directory that leads to a place: there is a description of
it below that place. -/
def Installed (host : Host) (directory : Path) (library : String) (base : Place) : Prop :=
  host.place directory = .ok base ∧ ∃ bytes changed,
    host.top.at? (base ++ segments library ++ [packageFile]) = some (.file bytes changed)

/-- The place of the first of several directories that a library is installed in. -/
inductive FirstInstalled (host : Host) (library : String) : List Path → Place → Prop
  | here {directory : Path} {rest : List Path} {base : Place} :
      host.Installed directory library base → FirstInstalled host library (directory :: rest) base
  | later {directory : Path} {rest : List Path} {base : Place} :
      (∀ other, ¬ host.Installed directory library other) →
      FirstInstalled host library rest base → FirstInstalled host library (directory :: rest) base

theorem exists_firstInstalled
    (h : ∃ directory ∈ directories, ∃ base, host.Installed directory library base) :
    ∃ base, host.FirstInstalled library directories base := by
  induction directories with
  | nil => simp at h
  | cons directory rest ih =>
    by_cases hhere : ∃ base, host.Installed directory library base
    · obtain ⟨base, hhere⟩ := hhere
      exact ⟨base, .here hhere⟩
    · rw [List.exists_mem_cons_iff] at h
      obtain ⟨base, hrest⟩ := ih (h.resolve_left hhere)
      exact ⟨base, .later (not_exists.mp hhere) hrest⟩

theorem packageIn_eq (directory : Path) (hlibrary : IsSourceName library) :
    packageIn directory library =
      { directory with parts := directory.parts ++ (segments library ++ [packageFile]) } := by
  have hfile : Path.ofText packageFile = ⟨.relative, [packageFile]⟩ := by decide +kernel
  unfold packageIn Path.join
  rw [ofText_of_isSourceName hlibrary, hfile]
  simp

theorem node_packageIn_iff (hlinks : host.LinkFree) (hlibrary : IsSourceName library)
    {node : Node} :
    host.node (packageIn directory library) = .ok node ↔ ∃ base, host.place directory = .ok base ∧
      host.top.at? (base ++ segments library ++ [packageFile]) = some node := by
  have hnames := NamesOnly.append hlibrary.proper namesOnly_packageFile
  rw [packageIn_eq directory hlibrary, node_below_iff hlinks directory hnames]
  simp only [List.append_assoc]

/-- A library is installed in a directory just if the description looked for there is a
file. -/
theorem isFile_packageIn_iff (hlinks : host.LinkFree) (hlibrary : IsSourceName library) :
    host.isFile (packageIn directory library) = .ok true ↔
      ∃ base, host.Installed directory library base := by
  simp only [isFile_eq_true_iff, node_packageIn_iff hlinks hlibrary, Installed]
  constructor
  · rintro ⟨bytes, changed, base, hplace, hat⟩
    exact ⟨base, hplace, bytes, changed, hat⟩
  · rintro ⟨base, hplace, bytes, changed, hat⟩
    exact ⟨bytes, changed, base, hplace, hat⟩

theorem not_installed_of_isFile (hlinks : host.LinkFree) (hlibrary : IsSourceName library)
    (h : host.isFile (packageIn directory library) = .ok false) (base : Place) :
    ¬ host.Installed directory library base := by
  intro hbase
  have htrue := (isFile_packageIn_iff hlinks hlibrary).mpr ⟨base, hbase⟩
  rw [h] at htrue
  cases htrue

/-- Where a library is not installed, the search goes on. -/
theorem isFile_packageIn_of_not (hlinks : host.LinkFree) (hlibrary : IsSourceName library)
    (hshort : ∀ part ∈ segments library, part.utf8ByteSize ≤ longestName)
    (hdirectory : ∀ part ∈ directory.parts, part.utf8ByteSize ≤ longestName)
    (h : ∀ base, ¬ host.Installed directory library base) :
    host.isFile (packageIn directory library) = .ok false := by
  have hparts : ∀ part ∈ (packageIn directory library).parts,
      part.utf8ByteSize ≤ longestName := by
    intro part hm
    rw [packageIn_eq directory hlibrary] at hm
    rcases List.mem_append.mp hm with hm | hm
    · exact hdirectory part hm
    · rcases List.mem_append.mp hm with hm | hm
      · exact hshort part hm
      · rw [List.mem_singleton.mp hm]
        decide
  obtain ⟨isFile, hisFile⟩ := exists_isFile hlinks hparts
  cases isFile with
  | false => exact hisFile
  | true =>
    obtain ⟨base, hbase⟩ := (isFile_packageIn_iff hlinks hlibrary).mp hisFile
    exact absurd hbase (h base)

theorem settledPath_packageIn (hlinks : host.LinkFree) (hlibrary : IsSourceName library)
    (h : host.Installed directory library base) :
    settledPath host (packageIn directory library) =
      .ok ⟨.root, base ++ segments library ++ [packageFile]⟩ := by
  obtain ⟨hplace, bytes, changed, hat⟩ := h
  have hsome : (host.top.at? (base ++ (segments library ++ [packageFile]))).isSome := by
    rw [← List.append_assoc, hat]
    rfl
  unfold settledPath
  rw [packageIn_eq directory hlibrary,
    settled_of_place hlinks (place_below hlinks hplace hsome) hsome, List.append_assoc]

/-- The search ends at the first directory that the library is installed in. -/
theorem firstPackage_of_firstInstalled (hlinks : host.LinkFree) (hlibrary : IsSourceName library)
    (hshort : ∀ part ∈ segments library, part.utf8ByteSize ≤ longestName)
    (hdirectories : ∀ directory ∈ directories, ∀ part ∈ directory.parts,
      part.utf8ByteSize ≤ longestName)
    (h : host.FirstInstalled library directories base) :
    ∃ candidate, firstPackage host library directories =
      .ok (some ⟨⟨.root, base ++ segments library ++ [packageFile]⟩, candidate⟩) := by
  induction h with
  | here hhere =>
    have hfile := (isFile_packageIn_iff hlinks hlibrary).mpr ⟨_, hhere⟩
    rw [firstPackage, hfile]
    simp only [onSystem, settledPath_packageIn hlinks hlibrary hhere]
    exact ⟨_, rfl⟩
  | later hnot _ ih =>
    rw [List.forall_mem_cons] at hdirectories
    rw [firstPackage, isFile_packageIn_of_not hlinks hlibrary hshort hdirectories.1 hnot]
    exact ih hdirectories.2

theorem firstPackage_of_not_installed (hlinks : host.LinkFree) (hlibrary : IsSourceName library)
    (hshort : ∀ part ∈ segments library, part.utf8ByteSize ≤ longestName)
    (hdirectories : ∀ directory ∈ directories, ∀ part ∈ directory.parts,
      part.utf8ByteSize ≤ longestName)
    (h : ∀ directory ∈ directories, ∀ base, ¬ host.Installed directory library base) :
    firstPackage host library directories = .ok none := by
  induction directories with
  | nil => rfl
  | cons directory rest ih =>
    rw [List.forall_mem_cons] at hdirectories h
    rw [firstPackage, isFile_packageIn_of_not hlinks hlibrary hshort hdirectories.1 h.1]
    exact ih hdirectories.2 h.2

/-- What a search that ends has found out. -/
theorem firstPackage_eq_ok (hlinks : host.LinkFree) (hlibrary : IsSourceName library)
    {found : Option FoundPackage} (h : firstPackage host library directories = .ok found) :
    match found with
    | none => ∀ directory ∈ directories, ∀ base, ¬ host.Installed directory library base
    | some package => ∃ base, host.FirstInstalled library directories base ∧
        package.file = ⟨.root, base ++ segments library ++ [packageFile]⟩ := by
  induction directories with
  | nil =>
    rw [firstPackage] at h
    cases h
    simp
  | cons directory rest ih =>
    rw [firstPackage] at h
    cases hfile : host.isFile (packageIn directory library) with
    | error call =>
      rw [hfile] at h
      cases h
    | ok isFile =>
      rw [hfile] at h
      cases isFile with
      | true =>
        obtain ⟨base, hbase⟩ := (isFile_packageIn_iff hlinks hlibrary).mp hfile
        simp only [onSystem, settledPath_packageIn hlinks hlibrary hbase] at h
        cases h
        exact ⟨base, .here hbase, rfl⟩
      | false =>
        have hnot := not_installed_of_isFile hlinks hlibrary hfile
        have hrest := ih h
        cases found with
        | none => exact List.forall_mem_cons.mpr ⟨hnot, hrest⟩
        | some package =>
          obtain ⟨base, hbase, hpath⟩ := hrest
          exact ⟨base, .later hnot hbase, hpath⟩

/-! ## The base of a library -/

/-- The place that the names of a library start from: that of the first directory the library
is installed in, or else, for the library that comes with the toolchain, the toolchain's. -/
def LooksIn (host : Host) (directories : List Path) (library : String) (base : Place) : Prop :=
  host.FirstInstalled library directories base ∨
    (∀ directory ∈ directories, ∀ other, ¬ host.Installed directory library other) ∧
      library = toolchainLibrary ∧ base = (toolchainRoot host).parts

/-- A text and a date, and the members of a description, that a name of a library finds below
a place. -/
structure Provides (host : Host) (base : Place) (name text : String) (changed : Int)
    (members : List (String × JsonValue)) : Prop where
  source : host.top.at? (base ++ segments name) = some (.file (encodeUtf8 text) changed)
  dated : 1 ≤ yearOf changed ∧ yearOf changed ≤ 9999
  description : ∃ described time,
    host.top.at? (base ++ segments (libraryName name) ++ [packageFile]) =
        some (.file (encodeUtf8 described) time) ∧
      readJson (unifyNewlines described.toList) = .ok (.object members)

/-- A file is made of what a place provides for its name: its text and its date, its path, and
the library with the version that the description gives. -/
def Makes (host : Host) (base : Place) (name : String) (file : ResolvedFile) : Prop :=
  ∃ members, host.Provides base name file.content.raw file.modified.micros members ∧
    file.library = some ⟨libraryName name, versionIn members⟩ ∧
    file.absolutePath = (Path.mk .root (base ++ segments name)).text

end Host

namespace Resolver

variable {r : Resolver} {host : Host} {place base : Place} {extra : List Path}
variable {name library : String}

/-- The root of a resolver that is created is a place on the disk. -/
theorem root_of_create {text : String} {finder : PackageFinder} {parser : SourceParser}
    (hlinks : host.LinkFree) (hwork : NamesOnly host.workingPlace)
    (h : create host text finder parser = .ok r) :
    ∃ place, r.root = ⟨.root, place⟩ ∧ (host.top.at? place).isSome := by
  have hstart : NamesOnly (host.startOf (Path.ofText text)) := by
    unfold Host.startOf
    split
    · exact hwork
    · intro part hpart
      simp at hpart
  have hplace := namesOnly_foldl_onward (Path.ofText text).parts hstart
  obtain ⟨settled, hsettled, hexists, rfl⟩ := create_eq_ok_iff.mp h
  unfold settledPath at hsettled
  rw [Host.settled_eq hlinks hstart.not_dots] at hsettled
  generalize (Path.ofText text).parts.foldl onward _ = place at hsettled hplace
  cases hsettled
  obtain ⟨node, hnode⟩ := Host.existsAt_eq_true_iff.mp hexists
  refine ⟨place, rfl, ?_⟩
  rw [(Host.node_root_iff hlinks hplace).mp hnode]
  rfl

theorem finder_eq (hlinks : host.LinkFree) (hroot : r.root = ⟨.root, place⟩)
    (hplace : NamesOnly place) (hfinder : r.finder = modulesFinder extra)
    (library : String) :
    r.finder host library r.root = firstPackage host library (lookupOrder host place extra) := by
  rw [hfinder, hroot]
  unfold modulesFinder searchDirectories settledPath lookupOrder
  rw [Host.settled_root hlinks hplace]
  simp only [ancestorModules_eq]

theorem packageIn_toolchainRoot (host : Host) :
    packageIn (toolchainRoot host) toolchainLibrary =
      ⟨.root, (toolchainRoot host).parts ++ segments toolchainLibrary ++ [packageFile]⟩ := by
  have hlibrary : IsSourceName toolchainLibrary :=
    isSourceName_of_validate (eq_ok_of_toOption (by decide +kernel))
  rw [Host.packageIn_eq _ hlibrary, List.append_assoc]
  rfl

theorem namesOnly_toolchainRoot (host : Host) : NamesOnly (toolchainRoot host).parts := by
  have hbuiltin : NamesOnly ["builtin"] := by
    unfold NamesOnly
    decide
  refine NamesOnly.append (fun part hpart => ?_) hbuiltin
  obtain ⟨hempty, hdot, hdots, -⟩ := isEntryName_of_mem_texts host.program part hpart
  exact ⟨hempty, hdot, hdots⟩

theorem packageAt_of_looksIn (hlinks : host.LinkFree) (hroot : r.root = ⟨.root, place⟩)
    (hplace : NamesOnly place) (hfinder : r.finder = modulesFinder extra)
    (hlibrary : IsSourceName library)
    (hshort : ∀ part ∈ segments library, part.utf8ByteSize ≤ longestName)
    (hdirectories : ∀ directory ∈ lookupOrder host place extra, ∀ part ∈ directory.parts,
      part.utf8ByteSize ≤ longestName)
    (h : host.LooksIn (lookupOrder host place extra) library base) :
    r.PackageAt host library ⟨.root, base ++ segments library ++ [packageFile]⟩ := by
  have hfinds := finder_eq hlinks hroot hplace hfinder library
  rcases h with h | ⟨hnot, rfl, rfl⟩
  · obtain ⟨candidate, hfirst⟩ :=
      Host.firstPackage_of_firstInstalled hlinks hlibrary hshort hdirectories h
    exact .found (hfinds.trans hfirst)
  · have hfirst := Host.firstPackage_of_not_installed hlinks hlibrary hshort hdirectories hnot
    rw [← packageIn_toolchainRoot]
    exact .toolchain (hfinds.trans hfirst) rfl

/-- The description that is taken for a library lies in the base of the library. -/
theorem looksIn_of_packageAt {description : Path} (hlinks : host.LinkFree)
    (hroot : r.root = ⟨.root, place⟩) (hplace : NamesOnly place)
    (hfinder : r.finder = modulesFinder extra) (hlibrary : IsSourceName library)
    (h : r.PackageAt host library description) :
    ∃ base, host.LooksIn (lookupOrder host place extra) library base ∧
      description = ⟨.root, base ++ segments library ++ [packageFile]⟩ := by
  have hfinds := finder_eq hlinks hroot hplace hfinder library
  cases h with
  | found hfound =>
    obtain ⟨base, hbase, hpath⟩ :=
      Host.firstPackage_eq_ok hlinks hlibrary (hfinds.symm.trans hfound)
    exact ⟨base, Or.inl hbase, hpath⟩
  | toolchain hnone htoolchain =>
    have hnot := Host.firstPackage_eq_ok hlinks hlibrary (hfinds.symm.trans hnone)
    refine ⟨(toolchainRoot host).parts, Or.inr ⟨hnot, htoolchain, rfl⟩, ?_⟩
    rw [htoolchain, packageIn_toolchainRoot]

theorem libraryRoot_description (base : Place) (library : String) :
    libraryRoot ⟨.root, base ++ segments library ++ [packageFile]⟩ library = ⟨.root, base⟩ :=
  libraryRoot_of_parts ⟨.root, base⟩ library packageFile

theorem namesOnly_of_looksIn {directories : List Path}
    (h : host.LooksIn directories library base) : NamesOnly base := by
  rcases h with h | ⟨-, -, rfl⟩
  · induction h with
    | here hhere =>
      obtain ⟨-, bytes, changed, hat⟩ := hhere
      rw [List.append_assoc] at hat
      exact Node.namesOnly_of_at? (Node.isSome_of_append (by rw [hat]; rfl))
    | later _ _ ih => exact ih
  · exact namesOnly_toolchainRoot host

theorem openFile_root_iff (hlinks : host.LinkFree) {names : Place} (hnames : NamesOnly names)
    {bytes : List UInt8} {changed : Int} :
    host.openFile ⟨.root, names⟩ = .ok (bytes, changed) ↔
      host.top.at? names = some (.file bytes changed) := by
  rw [Host.openFile_eq_ok_iff, Host.node_root_iff hlinks hnames]

theorem LibraryFile.made {file : ResolvedFile} (hlinks : host.LinkFree)
    (hname : IsSourceName name) (hbase : NamesOnly base)
    (hpackage : r.PackageAt host (libraryName name)
      ⟨.root, base ++ segments (libraryName name) ++ [packageFile]⟩)
    (h : r.LibraryFile host name file) : host.Makes base name file := by
  obtain ⟨description, version, hdescription, hversion, hlibrary, hfound⟩ := h.package
  obtain rfl := hdescription.unique hpackage
  rw [libraryRoot_description] at hfound
  obtain ⟨described, time, members, hopened, hobject, rfl⟩ := packageVersion_eq_ok_iff.mp hversion
  obtain ⟨changed, hread, hinstant⟩ := hfound.content
  obtain ⟨rfl, hdated⟩ := instantOf_eq_ok_iff.mp hinstant
  have hopen := readTextFile_eq_ok_iff.mp hread
  have hpath := hfound.absolutePath
  rw [Path.below_eq _ hname] at hopen hpath
  have hlibraryName := isSourceName_libraryName hname h.goesOn
  have hnames : NamesOnly (base ++ segments name) := hbase.append hname.proper
  have hdescribed := (hbase.append hlibraryName.proper).append namesOnly_packageFile
  refine ⟨members, ⟨(openFile_root_iff hlinks hnames).mp hopen, hdated, ?_⟩, hlibrary, hpath⟩
  exact ⟨described, time, (openFile_root_iff hlinks hdescribed).mp hopened, hobject⟩

/-- A library's file is found where its parts are provided. -/
theorem resolves_of_provides {text : String} {changed : Int}
    {members : List (String × JsonValue)} (hlinks : host.LinkFree) (hname : IsSourceName name)
    (hlocal : r.isLocal host name = .ok false) (hgoesOn : libraryName name ≠ name)
    (hpackage : r.PackageAt host (libraryName name)
      ⟨.root, base ++ segments (libraryName name) ++ [packageFile]⟩)
    (h : host.Provides base name text changed members) (session : Session) :
    ∃ file, ((r.resolveSourceName host name).within session).1 = .ok file := by
  have hsource : (host.top.at? (base ++ segments name)).isSome := by rw [h.source]; rfl
  have hspells := (Host.spells_iff hlinks (Node.isSome_of_append hsource) name).mpr hsource
  have hopen := (openFile_root_iff hlinks (Node.namesOnly_of_at? hsource)).mpr h.source
  obtain ⟨described, time, hat, hobject⟩ := h.description
  have hdescribed := Node.namesOnly_of_at? (by rw [hat]; rfl)
  have hversion := packageVersion_eq_ok_iff.mpr
    ⟨described, time, members, (openFile_root_iff hlinks hdescribed).mpr hat, hobject, rfl⟩
  have hopens : host.OpensAs ((Path.mk .root base).below name) text changed := by
    rw [Path.below_eq _ hname]
    exact ⟨hopen, h.dated⟩
  rw [← libraryRoot_description base (libraryName name)] at hspells hopens
  exact resolveSourceName_of_library hname hlocal hgoesOn hpackage hversion hspells hopens session

/-! ## The law -/

/-- On a disk without links, a name of a library is found just if a text of that name and the
library's description lie below the first directory of the search order that the library is
installed in, and the file is made of these. A library that is nowhere installed is told so,
unless it is the toolchain's own. -/
theorem a_library_is_taken_from_the_nearest_installation (r : Resolver) (host : Host)
    (place : Place) (extra : List Path) (name : String) (session : Session)
    (hlinks : host.LinkFree) (hroot : r.root = ⟨.root, place⟩)
    (hplace : NamesOnly place) (hfinder : r.finder = modulesFinder extra)
    (hname : IsSourceName name) (hlocal : r.isLocal host name = .ok false)
    (hgoesOn : libraryName name ≠ name)
    (hshort : ∀ part ∈ segments (libraryName name), part.utf8ByteSize ≤ longestName)
    (hdirectories : ∀ directory ∈ lookupOrder host place extra, ∀ part ∈ directory.parts,
      part.utf8ByteSize ≤ longestName) :
    let ended := ((r.resolveSourceName host name).within session).1
    let directories := lookupOrder host place extra
    (∀ base, host.LooksIn directories (libraryName name) base →
      ((∃ file, ended = .ok file) ↔
        ∃ text changed members, host.Provides base name text changed members) ∧
      ∀ file, ended = .ok file → host.Makes base name file) ∧
    ((∀ base, ¬ host.LooksIn directories (libraryName name) base) →
      ended = .error (.of (.libraryNotInstalled (libraryName name)))) := by
  intro ended directories
  have hlibrary := isSourceName_libraryName hname hgoesOn
  refine ⟨fun base hbase => ?_, fun hnowhere => ?_⟩
  · have hpackage :=
      packageAt_of_looksIn hlinks hroot hplace hfinder hlibrary hshort hdirectories hbase
    have hmade : ∀ file, ended = .ok file → host.Makes base name file := by
      intro file hfile
      obtain ⟨-, hproject | hfrom⟩ := resolveSourceName_gives ⟨session, hfile⟩
      · rw [hproject.isLocal] at hlocal
        cases hlocal
      · exact hfrom.made hlinks hname (namesOnly_of_looksIn hbase) hpackage
    refine ⟨⟨?_, ?_⟩, hmade⟩
    · rintro ⟨file, hfile⟩
      obtain ⟨members, hprovides, -⟩ := hmade file hfile
      exact ⟨_, _, members, hprovides⟩
    · rintro ⟨text, changed, members, hprovides⟩
      exact resolves_of_provides hlinks hname hlocal hgoesOn hpackage hprovides session
  · -- Were it installed anywhere, there would be a first directory that it is installed in.
    have hnot : ∀ directory ∈ directories, ∀ base,
        ¬ host.Installed directory (libraryName name) base := by
      intro directory hmem base hinstalled
      obtain ⟨first, hfirst⟩ := Host.exists_firstInstalled ⟨directory, hmem, base, hinstalled⟩
      exact hnowhere first (Or.inl hfirst)
    have hnone := (finder_eq hlinks hroot hplace hfinder (libraryName name)).trans
      (Host.firstPackage_of_not_installed hlinks hlibrary hshort hdirectories hnot)
    refine resolveSourceName_of_not_installed hname hlocal hgoesOn hnone ?_ session
    intro htoolchain
    exact hnowhere (toolchainRoot host).parts (Or.inr ⟨hnot, htoolchain, rfl⟩)

/-- A project inside another one. The nearest installation directory holds a file of the
library without its description, and the library is installed above it and once more in a
directory that is listed. -/
def nestedHost : Host :=
  hostWith
    [(["work", "project", "node_modules", "lib", "x.sol"], .file [] 0),
     (["work", "node_modules", "lib", "package.json"],
       .file "\x7b\"version\": \"1.0.0\"\x7d".toUTF8.data.toList 0),
     (["work", "node_modules", "lib", "x.sol"], .file [] 0),
     (["store", "lib", "package.json"], .file [0x7b, 0x7d] 0),
     (["store", "lib", "x.sol"], .file [] 0)] [("NODE_PATH", "/store")]

theorem a_library_above_a_project_is_nearer_than_a_listed_one :
    let r : Resolver :=
      ⟨⟨.root, ["work", "project"]⟩, modulesFinder [], fixedParser ⟨[], []⟩⟩
    let directories := lookupOrder nestedHost ["work", "project"] []
    let file := emptyFile "lib/x.sol" "/work/node_modules/lib/x.sol" (some ⟨"lib", "1.0.0"⟩)
    create nestedHost "/work/./project/" (modulesFinder []) (fixedParser ⟨[], []⟩) = .ok r ∧
      nestedHost.LinkFree ∧ NamesOnly ["work", "project"] ∧ IsSourceName "lib/x.sol" ∧
      r.isLocal nestedHost "lib/x.sol" = .ok false ∧
      nestedHost.LooksIn directories "lib" ["work", "node_modules"] ∧
      ((r.resolveSourceName nestedHost "lib/x.sol").within (.start .usual)).1 = .ok file ∧
      nestedHost.Makes ["work", "node_modules"] "lib/x.sol" file := by
  intro r directories file
  have hlinks : nestedHost.LinkFree := by decide +kernel
  have hcreated : create nestedHost "/work/./project/" (modulesFinder [])
      (fixedParser ⟨[], []⟩) = .ok r :=
    create_eq_ok_iff.mpr ⟨r.root, by decide +kernel, by decide +kernel, rfl⟩
  -- The root of a resolver that is created is a place, so its names are names of entries.
  obtain ⟨place, hroot, hat⟩ := root_of_create hlinks (fun part hpart => by cases hpart) hcreated
  obtain rfl : place = ["work", "project"] := (congrArg Path.parts hroot).symm
  have hplace : NamesOnly ["work", "project"] := Node.namesOnly_of_at? hat
  have hname : IsSourceName "lib/x.sol" :=
    isSourceName_of_validate (eq_ok_of_toOption (by decide +kernel))
  have hlocal : r.isLocal nestedHost "lib/x.sol" = .ok false :=
    eq_ok_of_toOption (by decide +kernel)
  have horder : directories = ["/work/project/node_modules", "/work/node_modules",
      "/node_modules", "/store"].map Path.ofText := by decide +kernel
  have hlooks : nestedHost.LooksIn directories "lib" ["work", "node_modules"] := by
    rw [horder]
    have hlibrary : IsSourceName "lib" := isSourceName_libraryName hname (by decide +kernel)
    refine Or.inl (.later ?_ (.here ?_))
    · exact Host.not_installed_of_isFile hlinks hlibrary (eq_ok_of_toOption (by decide +kernel))
    · have hfile : nestedHost.isFile (packageIn (Path.ofText "/work/node_modules") "lib") =
          .ok true := eq_ok_of_toOption (by decide +kernel)
      obtain ⟨base, hbase⟩ := (Host.isFile_packageIn_iff hlinks hlibrary).mp hfile
      have hat : nestedHost.place (Path.ofText "/work/node_modules") =
          .ok ["work", "node_modules"] := eq_ok_of_toOption (by decide +kernel)
      obtain rfl := Except.ok.inj (hbase.1.symm.trans hat)
      exact hbase
  have hfile : ((r.resolveSourceName nestedHost "lib/x.sol").within (.start .usual)).1 = .ok file :=
    eq_ok_of_toOption (by decide +kernel)
  obtain ⟨hfound, -⟩ := a_library_is_taken_from_the_nearest_installation r nestedHost
    ["work", "project"] [] "lib/x.sol" (.start .usual) hlinks hroot hplace rfl hname hlocal
    (by decide +kernel) (by decide +kernel) (by decide +kernel)
  exact ⟨hcreated, hlinks, hplace, hname, hlocal, hlooks, hfile, (hfound _ hlooks).2 file hfile⟩

end Resolver

end SourceNames
