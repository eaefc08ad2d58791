import Strobengine.Foundations.Directory
import Strobengine.Foundations.Execution

/-!
# Saving reports

`save_report` writes the artifact to a temporary file of its own and renames it, then does the same
with a pointer to the report. Calls run in threads of their own and share the directory; every step
is one operation of one call on the file system, which does not fail by itself. The artifact of a
report is its JSON text. All texts are ASCII, so that a character is a byte.
-/

namespace Strobengine.Reports

open Foundations

structure DateTime where
  year : Nat
  month : Nat
  day : Nat
  hour : Nat
  minute : Nat
  second : Nat
  microsecond : Nat
  deriving DecidableEq, Repr

def padded (value : Nat) : Nat → List Char
  | 0 => []
  | width + 1 => Nat.digitChar (value / 10 ^ width % 10) :: padded value width

def DateTime.isoformat (time : DateTime) : String :=
  String.ofList
    (padded time.year 4 ++ '-' :: padded time.month 2 ++ '-' :: padded time.day 2 ++
      'T' :: padded time.hour 2 ++ ':' :: padded time.minute 2 ++ ':' :: padded time.second 2 ++
      (if time.microsecond = 0 then [] else '.' :: padded time.microsecond 6) ++
      ['+', '0', '0', ':', '0', '0'])

def isSlugCharacter (character : Char) : Bool :=
  character.isAlphanum || character == '_' || character == '-'

def slugifyUrl (url : String) : String :=
  String.ofList
    ((url.toList.map fun character =>
        if isSlugCharacter character then character else '_').take 80)

structure Report where
  timestamp : DateTime
  url : String
  artifact : String
  noSave : Bool := false
  deriving DecidableEq, Repr

def Report.filename (report : Report) : String :=
  report.timestamp.isoformat ++ "_" ++ slugifyUrl report.url ++ ".json"

def latestPath : String :=
  "latest.json"

def latestTmp : String :=
  ".tmp_latest.json"

def mkstempName (random : String) : String :=
  "tmp" ++ random ++ ".tmp"

def latestPayload (filename : String) : List Char :=
  "\x7b\n  \"latest_report\": \"".toList ++ filename.toList ++ "\"\n\x7d".toList

abbrev ReportDirectory :=
  Directory String Char

/-- A file that is open for writing, and what is still to be written. -/
structure Handle where
  file : Nat
  offset : Nat
  remaining : List Char
  deriving DecidableEq, Repr

def Handle.write (handle : Handle) (length : Nat) (directory : ReportDirectory) :
    ReportDirectory × Handle :=
  (directory.write '\x00' handle.file handle.offset (handle.remaining.take length),
    { handle with
      offset := handle.offset + (handle.remaining.take length).length
      remaining := handle.remaining.drop length })

/-- Where a call stands. A failed rename of the artifact still has its clean-up before it. -/
inductive Phase where
  | started
  | dumping (random : String) (handle : Handle)
  | dumped (random : String)
  | cleaning (random : String) (failed : Bool)
  | unlinking (random : String) (failed : Bool)
  | saved
  | pointing (handle : Handle)
  | pointed
  | returned (filepath : Option String)
  | raised
  deriving DecidableEq, Repr

structure Call where
  report : Report
  phase : Phase
  deriving DecidableEq, Repr

inductive FileEvent where
  | mkstemp (random : String)
  | open
  | write (length : Nat)
  | close
  | rename
  | exists
  | unlink
  deriving DecidableEq, Repr

def Phase.afterCleanup (failed : Bool) : Phase :=
  if failed then .raised else .saved

def Call.start (report : Report) : Call :=
  { report, phase := if report.noSave then .returned none else .started }

def Call.advance (report : Report) (directory : ReportDirectory) :
    Phase → FileEvent → Option (ReportDirectory × Phase)
  -- `mkstemp` does not take a name that exists
  | .started, .mkstemp random =>
    if directory.entries (mkstempName random) = none then
      some
        (directory.add (mkstempName random),
          .dumping random ⟨directory.files.length, 0, report.artifact.toList⟩)
    else
      none
  | .dumping random handle, .write length =>
    if handle.remaining = [] ∨ length = 0 then
      none
    else
      let (written, moved) := handle.write length directory
      some (written, .dumping random moved)
  | .dumping random handle, .close =>
    if handle.remaining = [] then some (directory, .dumped random) else none
  | .dumped random, .rename =>
    match directory.rename (mkstempName random) report.filename with
    | some renamed => some (renamed, .cleaning random false)
    | none => some (directory, .cleaning random true)
  | .cleaning random failed, .exists =>
    if (directory.entries (mkstempName random)).isSome then
      some (directory, .unlinking random failed)
    else
      some (directory, .afterCleanup failed)
  -- an error of `unlink` is suppressed
  | .unlinking random failed, .unlink =>
    some (directory.remove (mkstempName random), .afterCleanup failed)
  | .saved, .open =>
    let (opened, file) := directory.openTruncated latestTmp
    some (opened, .pointing ⟨file, 0, latestPayload report.filename⟩)
  | .pointing handle, .write length =>
    if handle.remaining = [] ∨ length = 0 then
      none
    else
      let (written, moved) := handle.write length directory
      some (written, .pointing moved)
  | .pointing handle, .close => if handle.remaining = [] then some (directory, .pointed) else none
  | .pointed, .rename =>
    match directory.rename latestTmp latestPath with
    | some renamed => some (renamed, .returned (some report.filename))
    | none => some (directory, .raised)
  | _, _ => none

structure Store where
  directory : ReportDirectory
  calls : List Call

def Store.start (reports : List Report) : Store :=
  { directory := Directory.empty, calls := reports.map Call.start }

def Store.step (store : Store) : Nat × FileEvent → Option Store
  | (index, event) =>
    match store.calls[index]? with
    | none => none
    | some call =>
      match Call.advance call.report store.directory call.phase event with
      | none => none
      | some (directory, phase) =>
        some
          { directory
            calls := store.calls.set index { call with phase } }

end Strobengine.Reports
