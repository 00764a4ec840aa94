import DocExamples.Markup.Token

namespace DocExamples.Markup

open Text

/-- Kinds of strings in a tree. Embedded strings are those of elements that hold no prose; hidden ones
are comments, declarations and instructions. -/
inductive StringKind
  | plain
  | cdata
  | embedded
  | hidden
  deriving DecidableEq, Repr

/-- A run of siblings: nothing, or a string or an element followed by a run of siblings. -/
inductive Content
  | done
  | string (kind : StringKind) (text : Text) (next : Content)
  | element (tag : Tag) (inside next : Content)
  deriving DecidableEq, Repr

namespace Content

/-- The siblings in reverse order, followed by others. -/
def reverseOnto : Content → Content → Content
  | done, after => after
  | string kind text next, after => reverseOnto next (string kind text after)
  | element tag inside next, after => reverseOnto next (element tag inside after)

def reverse (content : Content) : Content := content.reverseOnto done

def children : Content → List (Tag × Content)
  | done => []
  | string _ _ next => next.children
  | element tag inside next => (tag, inside) :: next.children

/-- The elements at any depth, in document order, each with what is inside it. -/
def descendants : Content → List (Tag × Content)
  | done => []
  | string _ _ next => next.descendants
  | element tag inside next => (tag, inside) :: inside.descendants ++ next.descendants

/-- The plain and CDATA strings at any depth, in document order, joined. -/
def prose : Content → Text
  | done => []
  | string kind text next =>
    if kind = .plain || kind = .cdata then text ++ next.prose else next.prose
  | element _ inside next => inside.prose ++ next.prose

def findAll (name : Text) (content : Content) : List (Tag × Content) :=
  content.descendants.filter fun found => found.1.name == name

def childrenNamed (name : Text) (content : Content) : List (Tag × Content) :=
  content.children.filter fun found => found.1.name == name

end Content

/-- An open element: its tag, and what is inside it so far, last sibling first. -/
structure OpenElement where
  tag : Tag
  inside : Content
  deriving DecidableEq, Repr

/-- A tree under construction: the open elements, innermost first; what is beside them, last sibling
first; the data of the string that is being read; and the names of elements closed before their end
tag was read. -/
structure Builder where
  openElements : List OpenElement
  outside : Content
  pending : Option Text
  closedEarly : List Text
  deriving DecidableEq, Repr

namespace Builder

def empty : Builder := { openElements := [], outside := .done, pending := none, closedEarly := [] }

/-- Elements that have no content and need no end tag. -/
def voidNames : List Text :=
  ["area", "base", "br", "col", "embed", "hr", "img", "input", "keygen", "link", "menuitem", "meta",
    "param", "source", "track", "wbr", "basefont", "bgsound", "command", "frame", "image", "isindex",
    "nextid", "spacer"].map String.toList

def preservingNames : List Text := ["pre", "textarea"].map String.toList

def embeddingNames : List Text :=
  ["script", "style", "template", "rt", "rp"].map String.toList

def isInside (b : Builder) (names : List Text) : Bool :=
  b.openElements.any fun element => names.contains element.tag.name

/-- White space alone becomes one line feed if it holds one, else one space. -/
def collapse (text : Text) : Text :=
  if text.all isMarkupBlank then (if text.contains '\n' then ['\n'] else [' ']) else text

def addString (b : Builder) (kind : StringKind) (text : Text) : Builder :=
  let text := if b.isInside preservingNames then text else collapse text
  match b.openElements with
  | [] => { b with outside := .string kind text b.outside }
  | element :: rest =>
    { b with openElements := { element with inside := .string kind text element.inside } :: rest }

def endString (b : Builder) : Builder :=
  match b.pending with
  | none => b
  | some text =>
    let kind := if b.isInside embeddingNames then .embedded else .plain
    { b with pending := none }.addString kind text

def closeInnermost (b : Builder) : Builder :=
  match b.openElements with
  | [] => b
  | element :: [] =>
    { b with openElements := [], outside := .element element.tag element.inside.reverse b.outside }
  | element :: parent :: rest =>
    let inside := .element element.tag element.inside.reverse parent.inside
    { b with openElements := { parent with inside } :: rest }

def closeMany : Nat → Builder → Builder
  | 0, b => b
  | n + 1, b => closeMany n b.closeInnermost

/-- Closes the innermost open element of a name and all elements inside it, if there is one. -/
def close (b : Builder) (name : Text) : Builder :=
  let b := b.endString
  match b.openElements.findIdx? fun element => element.tag.name == name with
  | some depth => closeMany (depth + 1) b
  | none => b

/-- Takes an end tag: one that belongs to an element closed early is passed over. -/
def endTag (b : Builder) (name : Text) : Builder :=
  if b.closedEarly.contains name then { b with closedEarly := b.closedEarly.erase name }
  else b.close name

/-- Takes a start tag. A tag that closes itself closes its own element; else an element without content
is closed at once, and its end tag, if one is read later, is passed over. -/
def startTag (b : Builder) (tag : Tag) (selfClosing : Bool) : Builder :=
  let b := b.endString
  let b := { b with openElements := { tag, inside := .done } :: b.openElements }
  if selfClosing then b.close tag.name
  else if voidNames.contains tag.name then
    { b.close tag.name with closedEarly := tag.name :: b.closedEarly }
  else b

def kindOf : AsideKind → StringKind
  | .cdata => .cdata
  | .comment | .instruction | .declaration => .hidden

def take (b : Builder) : Token → Builder
  | .data text => { b with pending := some (b.pending.getD [] ++ text) }
  | .start tag selfClosing => b.startTag tag selfClosing
  | .stop name => b.endTag name
  | .aside kind text => b.endString.addString (kindOf kind) text

def finish (b : Builder) : Content :=
  let b := b.endString
  (closeMany b.openElements.length b).outside.reverse

end Builder

def Content.ofTokens (tokens : List Token) : Content :=
  (tokens.foldl Builder.take Builder.empty).finish

def Content.ofText (text : Text) : Except Fault Content :=
  (Token.ofText text).map ofTokens

def Content.ofText? (text : Text) : Option Content := (ofText text).toOption

end DocExamples.Markup
