/-!
The command line: which configuration file to use, whether to create it, and whether only to check
the identity.
-/
namespace CredentialRotation.Service

structure Options where
  path : String
  create : Bool
  checkOnly : Bool
  deriving DecidableEq, Repr

/-- What a command line asks for. -/
inductive Request
  | run (options : Options)
  | help
  | version
  | misuse
  deriving DecidableEq, Repr

/-- The options seen so far. Each may be given once. -/
private structure Given where
  path : Option String
  create : Bool
  checkOnly : Bool

private def Given.options (g : Given) : Options :=
  ⟨g.path.getD "config.toml", g.create, g.checkOnly⟩

/-- A word that starts with a hyphen is no value, unless it is nothing but a hyphen. -/
private def isValue (word : String) : Bool :=
  word = "-" || word.toList.head? ≠ some '-'

private def valueBehindEquals? (name word : String) : Option String :=
  let start := name.toList ++ ['=']
  if start.isPrefixOf word.toList then some (String.ofList (word.toList.drop start.length))
  else none

private def read (g : Given) : List String → Request
  | [] => .run g.options
  | "--help" :: _ => .help
  | "--version" :: _ => .version
  | "--create-config" :: words =>
    if g.create then .misuse else read { g with create := true } words
  | "--check" :: words =>
    if g.checkOnly then .misuse else read { g with checkOnly := true } words
  | "--config" :: value :: words =>
    if g.path.isSome || !isValue value then .misuse else read { g with path := some value } words
  | ["--"] => .run g.options
  | word :: words =>
    if ['-', 'h'].isPrefixOf word.toList then .help
    else if ['-', 'V'].isPrefixOf word.toList then .version
    else match valueBehindEquals? "--config" word with
      | some value => if g.path.isSome then .misuse else read { g with path := some value } words
      | none => .misuse

/-- Reads the words of a command line from left to right, up to the first that decides. -/
def Request.ofWords (words : List String) : Request :=
  read ⟨none, false, false⟩ words

end CredentialRotation.Service
