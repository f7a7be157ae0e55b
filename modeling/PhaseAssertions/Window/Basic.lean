import PhaseAssertions.Timestamp
import PhaseAssertions.Verdict

/-!
# Window stacks

A snapshot of a window manager is the stack of its windows at one time, the
top-most window first.  Windows belong to one of four layers.  A query names a
layer and a part of a title; it looks at the first window of the layer whose
title has that part, so a hidden window in front can stand for a visible one
behind it.
-/

namespace PhaseAssertions

/-- The layer of a window relative to application windows. -/
inductive WindowKind where
  /-- A system window above the applications, such as a status bar. -/
  | aboveApp
  /-- A system window below the applications, such as a wallpaper. -/
  | belowApp
  /-- The window of an input method. -/
  | ime
  | app
deriving DecidableEq, Inhabited

namespace WindowKind

def all : List WindowKind :=
  [.aboveApp, .belowApp, .ime, .app]

/-- The kind as it is written in documents. -/
def name : WindowKind → String
  | .aboveApp => "above_app"
  | .belowApp => "below_app"
  | .ime => "ime"
  | .app => "app"

/-- The kind in words, as reasons use it. -/
def label : WindowKind → String
  | .aboveApp => "above-app window"
  | .belowApp => "below-app window"
  | .ime => "IME window"
  | .app => "app window"

def ofName? (name : String) : Option WindowKind :=
  all.find? fun kind => kind.name = name

end WindowKind

/-- One window of a stack. -/
structure WindowState where
  title : String
  kind : WindowKind
  visible : Bool := false
deriving DecidableEq

/-- A window stack at one time. -/
structure WindowManagerEntry where
  /-- The time in nanoseconds. -/
  timestamp : Int64
  /-- The windows, the top-most first. -/
  windows : List WindowState := []
deriving DecidableEq

instance : Snapshot WindowManagerEntry where
  timestamp := WindowManagerEntry.timestamp

/-- Whether `part` occurs in `text` as a run of neighbouring characters. -/
def occursIn (part : List Char) : List Char → Bool
  | [] => part.isEmpty
  | character :: rest =>
    part.isPrefixOf (character :: rest) || occursIn part rest

/-- Whether the title of a window has a given part. -/
def WindowState.titleHas (window : WindowState) (part : String) : Bool :=
  occursIn part.toList window.title.toList

namespace WindowManagerEntry

/-- Whether the first window of a layer whose title has `part` is visible. -/
def isVisible (entry : WindowManagerEntry) (kind : WindowKind) (part : String) :
    Verdict :=
  match entry.windows.find? fun window => window.kind = kind && window.titleHas part with
  | none => Verdict.fail (kind.label ++ " " ++ part ++ " cannot be found")
  | some window =>
    if window.visible then
      Verdict.pass (window.title ++ " is visible")
    else
      Verdict.fail (window.title ++ " is invisible")

/-- Whether the top-most visible application window has `part` in its title. -/
def isAppOnTop (entry : WindowManagerEntry) (part : String) : Verdict :=
  match entry.windows.find? fun window => window.kind = .app && window.visible with
  | none => Verdict.fail "no visible app window found"
  | some window =>
    if window.titleHas part then
      Verdict.pass (window.title ++ " is on top")
    else
      Verdict.fail (part ++ " is not on top, found " ++ window.title)

end WindowManagerEntry

end PhaseAssertions
