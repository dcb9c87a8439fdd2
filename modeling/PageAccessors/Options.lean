import PageAccessors.Text.Blank

/-!
# Generator options

The two texts that shape what is generated: the package of the runtime library, and the header
that says where a file comes from. A blank header counts as none, and a file without a header of
its own has the default one.
-/

namespace PageAccessors

structure Options where
  runtimePackage : String := "dev.pagegen.runtime"
  header : String := "Code generated by pagegen. DO NOT EDIT."
  deriving DecidableEq

namespace Options

/-- The options that nothing was said about. -/
def default : Options := {}

/-- The header that files are written with. -/
def provenance (o : Options) : String :=
  if Text.isBlankText o.header then default.header else o.header

end Options

end PageAccessors
