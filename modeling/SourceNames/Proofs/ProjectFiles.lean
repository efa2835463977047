-- A file of the project is found by its name. Whatever else is on disk, a well-formed name
-- that spells a file below the root is resolved to just that file, read without any loss.

import SourceNames.Proofs.Containment
import SourceNames.Proofs.Loading

namespace SourceNames

namespace Resolver

/-- A well-formed name without an installation directory, whose segments are entries below
the root and which opens as a file of UTF-8 text dated in the years 1 to 9999, is resolved to
that file: of the project, at its path, with its bytes, and with what the parser finds. -/
theorem a_spelled_project_file_resolves_as_itself (r : Resolver) (host : Host) (name : String)
    (bytes : List UInt8) (changed : Int) (session : Session) (hname : IsSourceName name)
    (hmodules : modulesDirectory ∉ segments name) (hspells : host.Spells r.root name)
    (hopen : host.openFile ⟨r.root.anchor, r.root.parts ++ segments name⟩ = .ok (bytes, changed))
    (hutf8 : ∃ text, encodeUtf8 text = bytes)
    (hyear : 1 ≤ yearOf changed ∧ yearOf changed ≤ 9999) :
    ∃ file, ((r.resolveSourceName host name).within session).1 = .ok file ∧
      file.sourceName = name ∧ file.library = none ∧
      file.absolutePath = (Path.mk r.root.anchor (r.root.parts ++ segments name)).text ∧
      encodeUtf8 file.content.raw = bytes ∧ file.modified.micros = changed ∧
      SourceScan.mk file.content.imports file.content.versionPragmas =
        (r.parser file.content.raw file.absolutePath session.memo).1 := by
  obtain ⟨text, rfl⟩ := hutf8
  rw [← Path.below_eq r.root hname] at hopen ⊢
  obtain ⟨modified, hmodified, hfile⟩ :=
    resolveSourceName_of_project hname hmodules hspells ⟨hopen, hyear⟩ session
  exact ⟨_, hfile, rfl, rfl, rfl, rfl, hmodified, rfl⟩

/-- A file behind a link, with a byte order mark and a line ending of two characters. Beside
it are names that differ only by case, and a library of the same name is installed. -/
def crowdedHost : Host :=
  hostWith
    [(["project", "lib", "A.sol"], .link "/store/text"),
     (["project", "lib", "a.sol"], .file [] 0),
     (["project", "LIB", "A.sol"], .file [] 0),
     (["project", "node_modules", "lib", "package.json"], .file [0x7b, 0x7d] 0),
     (["project", "node_modules", "lib", "A.sol"], .file [] 0),
     (["store", "text"],
       .file ([0xef, 0xbb, 0xbf] ++ "import './B.sol';\r\n".toUTF8.data.toList) 1000000)]
    [("NODE_PATH", "/project/node_modules")]

theorem a_file_behind_a_link_resolves_as_itself :
    let r : Resolver := ⟨Path.ofText "/project", modulesFinder [], rememberingParser⟩
    let bytes : List UInt8 := [0xef, 0xbb, 0xbf] ++ "import './B.sol';\r\n".toUTF8.data.toList
    IsSourceName "lib/A.sol" ∧ modulesDirectory ∉ segments "lib/A.sol" ∧
      crowdedHost.Spells r.root "lib/A.sol" ∧
      crowdedHost.openFile ⟨.root, ["project", "lib", "A.sol"]⟩ = .ok (bytes, 1000000) ∧
      encodeUtf8 "\ufeffimport './B.sol';\r\n" = bytes ∧
      (1 ≤ yearOf 1000000 ∧ yearOf 1000000 ≤ 9999) ∧
      ∃ file, ((r.resolveSourceName crowdedHost "lib/A.sol").within (.start .usual)).1 = .ok file ∧
        encodeUtf8 file.content.raw = bytes ∧ file.library = none := by
  intro r bytes
  have hname : IsSourceName "lib/A.sol" :=
    isSourceName_of_validate (eq_ok_of_toOption (by decide +kernel))
  have hmodules : modulesDirectory ∉ segments "lib/A.sol" := by decide +kernel
  have hcase : trueCaseName crowdedHost "lib/A.sol" r.root = .ok (some "lib/A.sol") :=
    eq_ok_of_toOption (by decide +kernel)
  have hspells : crowdedHost.Spells r.root "lib/A.sol" :=
    spells_of_trueCaseName hcase (by decide)
  have hopen : crowdedHost.openFile ⟨.root, ["project", "lib", "A.sol"]⟩ =
      .ok (bytes, 1000000) := eq_ok_of_toOption (by decide +kernel)
  have hutf8 : encodeUtf8 "\ufeffimport './B.sol';\r\n" = bytes := by decide +kernel
  have hyear : 1 ≤ yearOf 1000000 ∧ yearOf 1000000 ≤ 9999 := by decide +kernel
  obtain ⟨file, hfile, -, hlibrary, -, hbytes, -⟩ :=
    a_spelled_project_file_resolves_as_itself r crowdedHost "lib/A.sol" bytes 1000000
      (.start .usual) hname hmodules hspells hopen ⟨_, hutf8⟩ hyear
  exact ⟨hname, hmodules, hspells, hopen, hutf8, hyear, file, hfile, hbytes, hlibrary⟩

end Resolver

end SourceNames
