import InstrumentBench.Storage.Action

/-!
# Replacing files

A file is replaced through a `.tmp` sibling: the new contents are written and
synced there, the old file is kept as a `.bak` sibling, and then the new one is
moved into place.  Keeping the old file is best effort.
-/

namespace InstrumentBench

/-- The directories above a path, unless it has none of its own. -/
def makeParent (path : String) : Attempt FileError Unit :=
  match Path.parent? path with
  | some parent => if parent = "" then pure () else .io (.reply (.makeDirectories parent))
  | none => pure ()

/-- Keeps what stands at a path as its `.bak` sibling, if that can be done. -/
def keepBackup (path : String) : Action Unit := do
  if ← Action.reply (.exists path) then
    let _ ← Action.reply (.rename path (Path.sibling path ".bak"))

/-- Replaces a file by one with new contents. -/
def replaceFile (path : String) (data : ByteArray) : Attempt FileError Unit := do
  let temporary := Path.sibling path ".tmp"
  makeParent path
  .io (.reply (.createFile temporary))
  .io (.reply (.writeFile temporary data))
  .io (.reply (.syncFile temporary))
  ExceptT.lift (keepBackup path)
  .io (.reply (.rename temporary path))

/-- The text of a file. -/
def readText (path : String) : Attempt IoError String :=
  ExceptT.mk do
    match ← Action.reply (.read path) with
    | .error error => return .error error
    | .ok data =>
      match String.fromUTF8? data with
      | some text => return .ok text
      | none => return .error .notText

end InstrumentBench
