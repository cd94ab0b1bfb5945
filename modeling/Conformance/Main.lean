import Conformance.CommandLine.Program

/-!
# The command line by itself

It knows no modules. A program with schemas of its own calls `runWith` with their modules.
-/

def main (arguments : List String) : IO UInt32 :=
  Conformance.CommandLine.runWith [] arguments
