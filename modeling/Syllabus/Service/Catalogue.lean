/-
  Syllabus.Service.Catalogue
  ──────────────────────────
  **WHAT THE SERVICE SAYS ABOUT ITSELF.**

  The service tells its version, the version of the remote interface that it
  uses and what it offers; and it lists what authors may write, in groups,
  with notes and an example for many kinds of items.
-/
import Syllabus.Item.Tag
import Syllabus.Json.Basic
import Syllabus.Notion.Client

namespace Syllabus.Service

/-- The version of the service. -/
def serviceVersion : String := "2.1.0"

/-- What the service offers. -/
def features : List String :=
  ["validation", "emoji-cleanup", "url-validation", "dry-run", "diagnostics"]

/-- That the service works, said at some time. -/
def healthReport (time : String) : Json :=
  .obj [("status", .str "ok"), ("version", .str serviceVersion),
    ("notionApiVersion", .str Notion.interfaceVersion), ("features", .strings features),
    ("timestamp", .str time)]

/-- What authors should know. -/
def importantNotes : Json :=
  .obj
    [("emojis", .str ("info, warning, tip, danger, definition, exercise, quiz and step add their own "
      ++ "emoji; do not put one in the text.")),
    ("validation", .str "Call /api/validate-course or /api/dry-run before creating a course."),
    ("urls", .str ("URLs are checked for image, video, audio, pdf, file, embed and bookmark items; "
      ++ "invalid ones become a visible notice."))]

/-- An example of an item with its name. -/
def sample (tag : String) (fields : List (String × Json)) : String × Json :=
  (tag, .obj (("type", .str tag) :: fields))

/-- Examples of items. -/
def samples : List (String × Json) :=
  [sample "paragraph" [("text", .str "Paragraph with **bold**, *italic* and `code`")],
    sample "heading1" [("text", .str "Main title"), ("color", .str "blue")],
    sample "callout"
      [("text", .str "Important note"), ("icon", .str "💡"), ("color", .str "yellow_background")],
    sample "info" [("text", .str "Useful information (ℹ️ added automatically)")],
    sample "code"
      [("code", .str "print(\"Hello\")"), ("language", .str "python"),
        ("caption", .str "Example")],
    sample "codeWithExplanation"
      [("code", .str "x = 5\nprint(x)"), ("language", .str "python"),
        ("explanations", .arr
          [.obj [("line", .str "x = 5"), ("explanation", .str "Declares a variable")],
            .obj [("line", .str "print(x)"), ("explanation", .str "Prints it")]])],
    sample "bullets" [("items", .strings ["Point 1", "Point 2", "Point 3"])],
    sample "toggle"
      [("text", .str "Click to see more"),
        ("children", .arr [.obj [("type", .str "paragraph"), ("text", .str "Hidden content")]])],
    sample "image"
      [("url", .str "https://example.com/image.jpg"), ("caption", .str "Description")],
    sample "file" [("url", .str "https://example.com/handout.zip"), ("name", .str "handout.zip")],
    sample "table"
      [("headers", .strings ["Header 1", "Header 2"]),
        ("rows", .arr [.strings ["Cell 1", "Cell 2"]])],
    sample "comparison"
      [("left", .obj [("title", .str "Pros"), ("items", .strings ["Fast", "Simple"])]),
        ("right", .obj [("title", .str "Cons"), ("items", .strings ["Costly", "Complex"])])],
    sample "definition"
      [("term", .str "API"), ("definition", .str "Application Programming Interface")],
    sample "step"
      [("stepNumber", .int 1), ("text", .str "Install the dependencies"),
        ("caption", .str "pip install -e .")],
    sample "exercise"
      [("text", .str "Write a function"),
        ("instructions", .strings ["Name it add", "It takes 2 parameters", "It returns their sum"]),
        ("solution", .str "def add(a, b):\n    return a + b"), ("language", .str "python")],
    sample "quiz"
      [("question", .str "Which language is statically typed?"),
        ("options", .strings ["JavaScript", "TypeScript", "Python"]), ("correctIndex", .int 1)],
    sample "summary" [("items", .strings ["Key point 1", "Key point 2"])],
    sample "objectives" [("items", .strings ["Understand X", "Apply Y"])],
    sample "estimatedTime" [("minutes", .int 45)],
    sample "syncedBlockReference" [("blockId", .str "<existing synced block id>")]]

/-- What authors may write. -/
def catalogueReport : Json :=
  .obj [("success", .bool true), ("version", .str serviceVersion),
    ("notionApiVersion", .str Notion.interfaceVersion), ("features", .strings features),
    ("blockTypes", .obj (Tag.catalogue.map fun (group, tags) => (group, .strings tags))),
    ("importantNotes", importantNotes), ("examples", .obj samples)]

end Syllabus.Service
