import GrantSurvey.FileSystem.Basic
import GrantSurvey.Rulebook.Loading

/-!
# Extending rulebooks

A rulebook is extended by files, one after the other: the rules of a later file replace those with
the same keys. One file that cannot be loaded makes the whole extension fail.
-/

namespace GrantSurvey.Rulebook

inductive ExtensionFault where
  | unreadable (path : String) (fault : FileSystem.Fault)
  | unloadable (fault : LoadFault)
  deriving Repr

def ExtensionFault.account : ExtensionFault → Account
  | unreadable path fault => [s!"read knowledge base {path}", fault.message]
  | unloadable fault => fault.account

def loadFile (system : FileSystem) (path : String) : Except ExtensionFault Rulebook :=
  match system.readText path with
  | .ok text => (load path text).mapError .unloadable
  | .error fault => .error (.unreadable path fault)

def extended (system : FileSystem) (book : Rulebook) (paths : List String) :
    Except ExtensionFault Rulebook :=
  paths.foldlM (fun book path => book.overlay <$> loadFile system path) book

end GrantSurvey.Rulebook
