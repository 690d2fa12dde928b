import InstrumentBench.Storage.Document
import InstrumentBench.Workbook

/-!
# Workbook files

A workbook is kept as a document in a file of its own.
-/

namespace InstrumentBench

/-- Reads the workbook in a file. -/
def Workbook.load (path : String) : Attempt WorkbookError Workbook :=
  ExceptT.mk do
    match ← (readDocument Workbook.decode path).run with
    | .ok workbook => return .ok workbook
    | .error error => return .error (.file error)

end InstrumentBench
