import Fulltext.Proofs.Log.Mirror

namespace Fulltext.Log

section

variable {m : Moment} {s : Setup} {t : FileTree}

variable {j : Journal}

end

/-- Nothing has changed but directories: no file is new, and none has another text. -/
structure Journal.Kept (j j' : Journal) : Prop where
  logger : j'.logger = j.logger
  errors : j'.errors = j.errors
  files : ∀ l, j'.files.contents? l = j.files.contents? l

end Fulltext.Log
