/-!
The texts that explain the command line.
-/
namespace CardSearch.CommandLine

def programName : String := "card-query"

def usage : String :=
  "usage: card-query [-h] [--cards CARDS] [--json] [--log-level LOG_LEVEL]\n" ++
  "                  [--wildcard-regex]\n" ++
  "                  query\n"

def help : String := usage ++
  "\n" ++
  "Evaluate a boolean card query (AND/OR/NOT, \"phrases\", wild*, (groups), NEAR/N)\n" ++
  "\n" ++
  "positional arguments:\n" ++
  "  query                 Query to evaluate; an empty string clears the search\n" ++
  "\n" ++
  "options:\n" ++
  "  -h, --help            show this help message and exit\n" ++
  "  --cards CARDS         JSON file with the card snapshot (default:\n" ++
  "                        $CARD_QUERY_CARDS_PATH)\n" ++
  "  --json                Print a JSON document instead of one id per line\n" ++
  "  --log-level LOG_LEVEL\n" ++
  "                        Override the configured log level\n" ++
  "  --wildcard-regex      Treat regex metacharacters other than '*' in wildcard\n" ++
  "                        terms as regex syntax\n"

def usageError (message : String) : String :=
  usage ++ programName ++ ": error: " ++ message ++ "\n"

end CardSearch.CommandLine
