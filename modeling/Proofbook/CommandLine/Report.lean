import Proofbook.CommandLine.Options
import Proofbook.Json.Printer
import Proofbook.Session.Basic

namespace Proofbook.CommandLine

structure Report where
  output : String
  exitCode : Nat

def resultLines (results : List (Invocation × Except Error Answer)) : String :=
  String.join (results.map fun (invocation, outcome) =>
    Json.print (.object [("call", .string invocation.call), ("result", outcomeJson outcome)]) ++
      "\n")

def derivations (r : Registry) : String :=
  Tstp.listing ((r.theorems.items.filterMap Theorem.proof).flatMap Proof.events ++
    r.statistics.events)

def statusLine (t : Theorem) : String :=
  "% SZS status " ++ (if t.isProven then "Theorem" else "Unknown") ++ " for " ++ t.name ++ "\n"

def report (format : Format) (r : Registry) (results : List (Invocation × Except Error Answer)) :
    Report where
  output :=
    (match format with
      | .json => resultLines results
      | .tstp => derivations r
      | .silent => "") ++ String.join (r.theorems.items.map statusLine)
  exitCode := if r.theorems.items.all Theorem.isProven then 0 else 1

/-! ## Reports without a script -/

inductive ReadError where
  | system (description : String) (code : Nat)
  | notUtf8

def ReadError.message : ReadError → String
  | system description code => description ++ " (os error " ++ Text.numeral code ++ ")"
  | notUtf8 => "stream did not contain valid UTF-8"

def unreadable (path : String) (fault : ReadError) : Report :=
  ⟨"% cannot read " ++ path ++ ": " ++ fault.message ++ "\n% SZS status OSError\n", 2⟩

def malformed : Report := ⟨"% malformed script\n% SZS status InputError\n", 2⟩

def versionText : String := "logicore 0.1.0\n"

def helpText : String := versionText ++ String.join [
  "\n",
  "\n",
  "logicore runs a script of logic calls against a fresh logic session.\n",
  "The script is a JSON array of \x7b\"call\": name, \"args\": [...]\x7d objects.\n",
  "Each result is reported, then an SZS status line for every theorem.\n",
  "\n",
  "USAGE:\n",
  "    logicore [OPTIONS] <path>\n",
  "\n",
  "FLAGS:\n",
  "    -h, --help       Prints help information\n",
  "    -V, --version    Prints version information\n",
  "\n",
  "OPTIONS:\n",
  "        --log-level <log-level>\n",
  "            log level [default: warn]",
  "  [possible values: off, error, warn, info, debug, trace]\n",
  "\n",
  "        --output <output>                          ",
  "result output [default: json]  [possible values: json, tstp, silent]\n",
  "        --target <target>                          ",
  "warn about proof checks slower than this many seconds [default: 1]\n",
  "        --time-limit <time-limit>                  ",
  "abandon proof checks after this many seconds\n",
  "        --truth-table-limit <truth-table-limit>    ",
  "most propositions in a truth table [default: 12]\n",
  "\n",
  "ARGS:\n",
  "    <path>    path to input script\n"]

def Stop.report : Stop → Report
  | help => ⟨helpText, 0⟩
  | version => ⟨versionText, 0⟩
  | invalid => ⟨"", 1⟩

end Proofbook.CommandLine
