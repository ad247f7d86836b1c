import DiagramRepair.Markdown.PreviewBlock
import DiagramRepair.Text.AsciiPart
import DiagramRepair.Text.Case
import DiagramRepair.Text.Digit
import DiagramRepair.Text.Integer

/-! Previews of markdown as HTML. They stand for what the `markdown` package makes, with its
extensions `fenced_code` and `toc`, of a document of headings, fenced code and paragraphs of plain
words. Every heading gets an identifier that no other heading has.
-/

namespace DiagramRepair.Markdown

/-- A character in the running text of HTML. -/
def htmlChar (c : Char) : Text :=
  if c = '&' then "&amp;".toList
  else if c = '<' then "&lt;".toList
  else if c = '>' then "&gt;".toList
  else [c]

/-- A character in HTML code, where quotes are escaped too. -/
def htmlCodeChar (c : Char) : Text :=
  if c = '"' then "&quot;".toList else htmlChar c

def isIdentifierSeparator (c : Char) : Bool :=
  c = '-' || Text.isBlank c

/-- Every run of separators as one hyphen; `behind` tells whether one was just written. -/
def hyphenate (behind : Bool) : Text → Text
  | [] => []
  | c :: rest =>
      if isIdentifierSeparator c then
        if behind then hyphenate true rest else '-' :: hyphenate true rest
      else c :: hyphenate false rest

/-- What an identifier is made of: ASCII letters, digits, underscores and separators. -/
def isIdentifierChar (c : Char) : Bool :=
  Text.isAsciiLetter c || Text.isAsciiDigit c || c = '_'
    || (isIdentifierSeparator c && c.toNat < 0x80)

/-- The identifier that a heading asks for. -/
def identifierOf (heading : Text) : Text :=
  let plain := heading.flatMap Text.asciiPart
  hyphenate false (Text.lower (Text.trim (plain.filter isIdentifierChar)))

/-- An identifier without the number behind its last underscore, and the number to try next. -/
def splitNumber (identifier : Text) : Text × Nat :=
  let digits := (identifier.reverse.takeWhile Text.isAsciiDigit).reverse
  let front := identifier.take (identifier.length - digits.length)
  if front.getLast? = some '_' && !digits.isEmpty then
    (front.dropLast, Text.digitsValue (digits.map fun c => c.toNat - '0'.toNat) + 1)
  else (identifier, 1)

/-- The identifier itself if it is new and not empty, else the first new one with a number. -/
def uniqueIdentifier (taken : List Text) (identifier : Text) : Text :=
  if !identifier.isEmpty && !taken.contains identifier then identifier
  else
    let (base, first) := splitNumber identifier
    -- One more candidate than there are identifiers, so one of them is new.
    let candidates :=
      (List.range (taken.length + 1)).map fun step => base ++ '_' :: Text.ofNat (first + step)
    (candidates.find? fun candidate => !taken.contains candidate).getD identifier

def headingHtml (level : Nat) (identifier text : Text) : Text :=
  "<h".toList ++ Text.ofNat level ++ " id=\"".toList ++ identifier ++ "\">".toList
    ++ text.flatMap htmlChar ++ "</h".toList ++ Text.ofNat level ++ ['>']

def codeHtml (language : Text) (lines : List Text) : Text :=
  "<pre><code".toList
    ++ (if language.isEmpty then [] else " class=\"language-".toList ++ language ++ ['"'])
    ++ '>' :: (lines.flatMap fun line => line.flatMap htmlCodeChar ++ ['\n'])
    ++ "</code></pre>".toList

def paragraphHtml (lines : List Text) : Text :=
  "<p>".toList ++ (Text.trimLeft (Text.joinLines lines)).flatMap htmlChar ++ "</p>".toList

/-- The HTML of blocks, of which no heading has an identifier that is taken. -/
def blocksHtml (taken : List Text) : List PreviewBlock → List Text
  | [] => []
  | .heading level text :: rest =>
      let identifier := uniqueIdentifier taken (identifierOf text)
      headingHtml level identifier text :: blocksHtml (identifier :: taken) rest
  | .code language lines :: rest => codeHtml language lines :: blocksHtml taken rest
  | .paragraph lines :: rest => paragraphHtml lines :: blocksHtml taken rest

/-- A markdown text as HTML. Lists, tables, quotes, links and emphasis, which the package renders,
are plain words here. -/
def preview (text : Text) : Text :=
  Text.joinLines (blocksHtml [] (previewBlocks text))

end DiagramRepair.Markdown
