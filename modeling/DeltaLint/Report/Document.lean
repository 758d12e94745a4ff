import DeltaLint.Run.Unit
import DeltaLint.Json.Printer
import DeltaLint.Problem

/-!
# The report as a document

A result as one JSON document: its verdict, the messages in order, what was
skipped, what failed, and how long it took to a thousandth of a second.
-/

namespace DeltaLint
namespace Report

def messageDatum (m : Run.Message) : Datum :=
  .ofFields [("linter", .text m.linter), ("file", .text m.file.text), ("line", .int m.line),
    ("source", .text m.source), ("message", .text m.message)]

def failureDatum (u : Run.UnitResult) : Datum :=
  .ofFields [("file", .text u.path.text), ("linter", .ofText? u.linter),
    ("kind", .ofText? (u.kind.map Run.ErrorKind.text)), ("detail", .ofText? u.detail)]

/-- Seconds to three places; whole seconds stay whole. -/
def roundedSeconds : Seconds → Seconds
  | .whole n => .whole n
  | .real x => .real (x.roundPlaces 3)

def datum (r : Run.Result) (elapsed : Seconds) (root : Option Path) : Datum :=
  .ofFields [
    ("status", .text r.status.text),
    ("messages", .list ((Run.Result.sortMessages r.messages).map messageDatum)),
    ("skipped_extensions", .ofTexts r.skippedExtensions),
    ("failures", .list (r.failed.map failureDatum)),
    ("files_checked", .ofNat r.files.length),
    ("clean_units", .ofNat r.clean.length),
    ("duration_seconds", (roundedSeconds elapsed).datum),
    ("project_root", .ofText? (root.map Path.text))]

/-- The document as indented JSON. -/
def document (r : Run.Result) (elapsed : Seconds) (root : Option Path) : String :=
  Json.print .indented (datum r elapsed root)

end Report
end DeltaLint
