import BrokenLinks.Path

/-! The settings of a run. -/

set_option autoImplicit false

namespace BrokenLinks

inductive WriteMode where
  | apply
  | dryRun
  deriving DecidableEq, Repr

/-- Files of a subdirectory from one checkpoint to the next. -/
abbrev Interval := { files : Nat // 0 < files }

structure Config where
  root : Path
  writeMode : WriteMode
  interval : Interval
  parallel : Bool
  deriving DecidableEq, Repr

namespace Config

def defaultRoot : Path := .ofString "docs"

def defaultInterval : Interval := ⟨200, by decide⟩

def new (root : Path) : Config := ⟨root, .apply, defaultInterval, false⟩

def default : Config := new defaultRoot

def isDryRun (config : Config) : Bool :=
  config.writeMode = .dryRun

/-- Roots that differ only in spelling count as one. -/
def sameAs (first second : Config) : Bool :=
  first.root.sameAs second.root &&
    decide ({ first with root := second.root } = second)

end Config

end BrokenLinks
