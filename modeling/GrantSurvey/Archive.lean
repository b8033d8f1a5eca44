import GrantSurvey.Diagnostic

/-!
# Archives

An archive is the list of the class entries of an artifact, each with its bytes or with the reason
why they cannot be read. Whatever an artifact is made of, its entries are chosen by one rule and
stand in ascending order of their names.
-/

namespace GrantSurvey

/-- A class entry: its bytes, or why they cannot be read. -/
structure Archive.Entry where
  name : String
  content : Except String (List UInt8)
  deriving Repr

structure Archive where
  moduleName : String
  entries : List Archive.Entry
  deriving Repr

namespace Archive

/-- Is an entry of this name surveyed? Module declarations and the variants for later releases of
the platform are not. -/
def isSurveyed (name : String) : Bool :=
  name.endsWith ".class" && !name.endsWith "module-info.class"
    && !name.startsWith "META-INF/versions/"

/-- The bytes of an entry of a module, or the diagnostic in their place. -/
def Entry.bytes (module : String) (entry : Entry) : Except Diagnostic (List UInt8) :=
  entry.content.mapError (.malformedClass module entry.name)

end Archive

end GrantSurvey
