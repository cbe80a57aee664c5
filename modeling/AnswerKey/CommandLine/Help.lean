import AnswerKey.CommandLine

/-!
# What the command line says of itself
-/

namespace AnswerKey.CommandLine

/-- The name by which the program is called. -/
def program : String := "regexmatch"

/-- The version of the program. -/
def versionText : String :=
  program ++ " 0.1.0\n"

/-- The help. -/
def helpText : String :=
  "Grade answers against a regexmatch answer specification\n"
  ++ "\n"
  ++ "Usage: " ++ program ++ " [OPTIONS] <SPEC> [SUBMISSIONS]...\n"
  ++ "\n"
  ++ "Arguments:\n"
  ++ "  <SPEC>            Specification file, or \"-\" to read it from stdin\n"
  ++ "  [SUBMISSIONS]...  Submission files, or directories searched recursively for *.txt files\n"
  ++ "\n"
  ++ "Options:\n"
  ++ "  -a, --answer <TEXT>  Grade TEXT as a submitted answer (repeatable)\n"
  ++ "  -g, --group <N>      Grade against the N-th weighted block (0-based) [default: 0]\n"
  ++ "  -l, --list           Print the parsed specification and exit\n"
  ++ "  -j, --json           Print one JSON object per graded answer\n"
  ++ "  -v, --verbose...     Raise log verbosity (repeat for more)\n"
  ++ "  -s, --sequential     Grade submissions sequentially instead of in parallel\n"
  ++ "      --no-color       Disable colored output\n"
  ++ "  -h, --help           Print help\n"
  ++ "  -V, --version        Print version\n"

/-- Why arguments were refused, in words; help and version are no faults. -/
def Refusal.fault? : Refusal → Option String
  | unknownArgument => some "error: an argument is not known\n"
  | missingValue => some "error: a value is required but none was supplied\n"
  | malformedValue => some "error: the value of '--group' is not a number\n"
  | superfluousValue => some "error: an option that takes no value was given one\n"
  | repeatedOption => some "error: an option cannot be used multiple times\n"
  | missingKey => some "error: the specification was not provided\n"
  | help => none
  | version => none

end AnswerKey.CommandLine
