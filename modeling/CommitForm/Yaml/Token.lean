/-
# Tokens of YAML texts

| token | stands for |
| --- | --- |
| `streamEnd` | the end of the text |
| `directive`, `documentStart`, `documentEnd` | lines `%…`, `---`, `...` |
| `listStart`, `mapStart`, `blockEnd` | the begin and end of a block, which indentation marks |
| `flowListStart` … `flowEntry` | brackets and commas |
| `entry`, `key`, `value` | `-`, `?` or nothing, `:` |
| `again`, `anchor`, `tag`, `scalar` | an alias, the properties and the text of a node |
-/

import CommitForm.Yaml.Scalar
import CommitForm.Yaml.Tag

namespace CommitForm
namespace Yaml

/-- What a token is.  Some of them stand for no characters: the ends of blocks, and the beginnings
of blocks and keys that a later token reveals. -/
inductive Lexeme where
  | streamEnd
  | directive (d : Directive)
  | documentStart
  | documentEnd
  | listStart
  | mapStart
  | blockEnd
  | flowListStart
  | flowListEnd
  | flowMapStart
  | flowMapEnd
  | flowEntry
  | entry
  | key
  | value
  | again (name : List Char)
  | anchor (name : List Char)
  | tag (t : WrittenTag)
  | scalar (style : Style) (text : List Char)
deriving DecidableEq, Repr

/-- A token and the places where it begins and ends; a token without characters begins and ends at
the same place. -/
structure Token where
  lexeme : Lexeme
  start : Place
  stop : Place
deriving DecidableEq, Repr

end Yaml
end CommitForm
