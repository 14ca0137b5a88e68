/-
  Syllabus.Language
  ─────────────────
  **THE LANGUAGES OF CODE BLOCKS.**

  A code block names its language from a fixed vocabulary.  What an author
  writes is trimmed and compared in lower case; common shorthands are known,
  and anything else is plain text.
-/
import Syllabus.Json.Basic
import Syllabus.Text.Blank
import Syllabus.Text.Case

namespace Syllabus.Language

/-- The vocabulary. -/
def all : List String :=
  ["abap", "arduino", "bash", "basic", "c", "clojure", "coffeescript", "c++", "c#", "css", "dart",
    "diff", "docker", "elixir", "elm", "erlang", "flow", "fortran", "f#", "gherkin", "glsl", "go",
    "graphql", "groovy", "haskell", "html", "java", "javascript", "json", "julia", "kotlin",
    "latex", "less", "lisp", "livescript", "lua", "makefile", "markdown", "markup", "matlab",
    "mermaid", "nix", "objective-c", "ocaml", "pascal", "perl", "php", "plain text", "powershell",
    "prolog", "protobuf", "python", "r", "reason", "ruby", "rust", "sass", "scala", "scheme",
    "scss", "shell", "sql", "swift", "typescript", "vb.net", "verilog", "vhdl", "visual basic",
    "webassembly", "xml", "yaml", "java/c/c++/c#"]

/-- The shorthands and what they stand for. -/
def shorthands : List (String × String) :=
  [("js", "javascript"), ("ts", "typescript"), ("py", "python"), ("sh", "shell"), ("zsh", "shell"),
    ("yml", "yaml"), ("text", "plain text"), ("txt", "plain text"), ("plaintext", "plain text"),
    ("cpp", "c++"), ("csharp", "c#"), ("md", "markdown")]

/-- The language of text that is not code. -/
def plain : String := "plain text"

/-- The language of code that names none. -/
def default : String := "javascript"

/-- The language that a text names; a blank text names the fallback. -/
def normalize (value : String) (fallback : String) : String :=
  if Text.isBlank value then fallback
  else
    let name := Text.lower (Text.strip value)
    if all.contains name then name else (shorthands.lookup name).getD plain

/-- The language that a value names; a value that is not a text names the fallback. -/
def ofJson (value : Json) (fallback : String) : String :=
  match value with
  | .str s => normalize s fallback
  | _ => fallback

end Syllabus.Language
