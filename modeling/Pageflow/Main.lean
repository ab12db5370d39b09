/-
  Pageflow.Main — the program.

  It carries out its command line on the files of the disk.  No request leaves the machine: a
  request and a page on the web are answered as if there were no network.
-/
import Pageflow.Command.Report

namespace Pageflow.Program

/-! ## §1. Answers of the machine -/

/-- A failure of the machine as a failure to read a file. -/
def fileError : IO.Error → FileError
  | .noFileOrDirectory .. => .notFound
  | .inappropriateType .. => .isDirectory
  | e => .other (toString e)

/-- What an action on a file gives. -/
def tryFile {α : Type} (act : IO α) : IO (Except FileError α) := do
  try return .ok (← act)
  catch e => return .error (fileError e)

/-- The bytes of a file. -/
def readBytes (path : String) : IO Bytes := do return (← IO.FS.readBinFile path).toList

/-- The size of a file. -/
def measure (path : String) : IO Nat := do
  return (← (← IO.FS.realPath path).metadata).byteSize.toNat

/-- What is said where a network would be needed. -/
def offline : String := "no network"

/-- The answer to a request. -/
def answerRequest (request : Http.Request) : Except Http.TransportError Http.Response :=
  match Http.checkUrl request.url with
  | .ok _ => .error (.network offline)
  | .error e => .error e

/-- The answer to a question. -/
def answer : (q : Query) → IO q.Answer
  | .call f arguments =>
    return match Standard.call? f.name arguments with
      | some result => result.map .value
      | none => .error (.failed ("no function " ++ f.name))
  | .send request => return answerRequest request
  | .fileBytes path => tryFile (readBytes path)
  | .fileSize path => tryFile (measure path)
  | .fetch _ => return .error offline

/-- Runs a task to its end. -/
def perform {σ α : Type} : Task σ α → IO (Option α)
  | .done a _ => return some a
  | .endless => return none
  | .ask q s resume => do perform (resume (← answer q) s)

/-! ## §2. Help -/

/-- What the program is told. -/
def usage : String :=
  "Usage: pageflow --page <PAGE> [OPTIONS] <COMMAND>\n\n"
    ++ "Commands:\n"
    ++ "  run <SERVICE> <ACTIVITY>\n"
    ++ "  sequence <SERVICE> <SEQUENCE>\n"
    ++ "  call <SERVICE> <ACTIVITY> [--param <NAME=VALUE>]... [--body <JSON>] [--no-params]\n"
    ++ "  autostart\n"
    ++ "  inactive\n"
    ++ "  storage <KEY> [--service <SERVICE>]\n\n"
    ++ "Options:\n"
    ++ "  --query <KEY=VALUE>            a query parameter\n"
    ++ "  --query-string <RAW>           query parameters in one string\n"
    ++ "  --input <SERVICE.FIELD=VALUE>  the value of an input\n"
    ++ "  --file <SERVICE.INPUT=PATH>    the file of an input\n"
    ++ "  --no-validate                  take documents as they are\n"
    ++ "  --strict-integrity             treat every integrity problem as fatal\n"

/-- Shows what a line that is not carried out asks for or lacks. -/
def showUsage (e : Command.UsageError) : IO UInt32 := do
  match e with
  | .version => IO.println "pageflow 0.1.0"
  | .help => IO.print usage
  | _ => IO.eprint usage
  return UInt32.ofNat e.status

/-- Shows a report. -/
def showReport (r : Command.Report) : IO UInt32 := do
  IO.eprint r.messages
  IO.print r.output
  return UInt32.ofNat r.status

/-! ## §3. The program -/

/-- Carries out the words of a command line. -/
def runWords (words : List String) : IO UInt32 := do
  match Command.Line.parse words with
  | .error e => showUsage e
  | .ok l =>
    let report : Run (List Note) Empty Command.Report := l.report (← IO.getEnv Http.timeoutVariable)
    match ← perform (report []) with
    | some (.ok r) => showReport r
    | _ => return 1

end Pageflow.Program

/-- The program of the command line. -/
def main (words : List String) : IO UInt32 := Pageflow.Program.runWords words
