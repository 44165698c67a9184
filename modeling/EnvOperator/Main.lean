import EnvOperator.Environment.Definition
import EnvOperator.Json.Printer

/-! # Command line

`crds` prints the resource definitions, each as an indented document.
-/
namespace EnvOperator

def printDefinitions : IO Unit :=
  for d in ResourceDefinition.all do
    IO.println d.json.indented

def usage : String := "Usage: kiln-operator crds"

end EnvOperator

open EnvOperator in
def main : List String → IO UInt32
  | ["crds"] => do
    printDefinitions
    return 0
  | _ => do
    IO.eprintln usage
    return 2
