import Herald.Markup.TreeRules
import Herald.Text.Unicode

set_option autoImplicit false

/-!
Markup removal for user text.

A text is parsed as an HTML fragment in a `div`. Every element is then
removed and its children kept in its place, except that some elements go
with everything inside them: `script` and `style`, template contents, and
elements in a namespace they cannot enter from HTML (an SVG element other
than `svg`, a MathML element other than `math`, and an HTML element whose
name is an SVG or MathML element name, save `title`, `style`, `font`, `a`,
`script` and `span`). Comments and doctypes go too. What is left is text;
it is written with `&`, `<`, `>` and the no-break space escaped, and trimmed
of Unicode whitespace at both ends.
-/

namespace Herald.Markup

def parseFragment (s : String) : Dom :=
  let input := preprocessInput s
  let rec run (tz : Tokenizer) (b : Builder) : Nat → Builder
    | 0 => b
    | fuel + 1 =>
      let cdata := b.adjustedElement.ns != .html
      let (tok, tz) := tz.nextToken cdata
      let skipLineFeed := b.ignoreLineFeed
      let b := { b with ignoreLineFeed := false }
      let tok := match tok with
        | .chars text =>
          if skipLineFeed && text.startsWith "\n" then Token.chars (text.drop 1).toString else tok
        | other => other
      let isEof := match tok with | .eof => true | _ => false
      let emptyText := match tok with | .chars text => text.isEmpty | _ => false
      let b := if emptyText then b else ((dispatch 64 tok).run b).2
      let (tz, b) := match b.switchTo with
        | some st => ({ tz with state := st }, { b with switchTo := none })
        | none => (tz, b)
      if isEof then b else run tz b fuel
  (run (Tokenizer.create input) {} (2 * input.size + 16)).dom

def svgElementNames : List String :=
  ["a", "animate", "animateMotion", "animateTransform", "circle", "clipPath", "defs", "desc",
   "discard", "ellipse", "feBlend", "feColorMatrix", "feComponentTransfer", "feComposite",
   "feConvolveMatrix", "feDiffuseLighting", "feDisplacementMap", "feDistantLight",
   "feDropShadow", "feFlood", "feFuncA", "feFuncB", "feFuncG", "feFuncR", "feGaussianBlur",
   "feImage", "feMerge", "feMergeNode", "feMorphology", "feOffset", "fePointLight",
   "feSpecularLighting", "feSpotLight", "feTile", "feTurbulence", "filter", "foreignObject", "g",
   "image", "line", "linearGradient", "marker", "mask", "metadata", "mpath", "path", "pattern",
   "polygon", "polyline", "radialGradient", "rect", "script", "set", "stop", "style", "svg",
   "switch", "symbol", "text", "textPath", "title", "tspan", "use", "view"]

def mathmlElementNames : List String :=
  ["abs", "and", "annotation", "annotation-xml", "apply", "approx", "arccos", "arccosh", "arccot",
   "arccoth", "arccsc", "arccsch", "arcsec", "arcsech", "arcsin", "arcsinh", "arctan", "arctanh",
   "arg", "bind", "bvar", "card", "cartesianproduct", "cbytes", "ceiling", "cerror", "ci", "cn",
   "codomain", "complexes", "compose", "condition", "conjugate", "cos", "cosh", "cot", "coth",
   "cs", "csc", "csch", "csymbol", "curl", "declare", "degree", "determinant", "diff",
   "divergence", "divide", "domain", "domainofapplication", "emptyset", "eq", "equivalent",
   "eulergamma", "exists", "exp", "exponentiale", "factorial", "factorof", "false", "floor", "fn",
   "forall", "gcd", "geq", "grad", "gt", "ident", "image", "imaginary", "imaginaryi", "implies",
   "in", "infinity", "int", "integers", "intersect", "interval", "inverse", "lambda", "laplacian",
   "lcm", "leq", "limit", "list", "ln", "log", "logbase", "lowlimit", "lt", "maction",
   "maligngroup", "malignmark", "math", "matrix", "matrixrow", "max", "mean", "median",
   "menclose", "merror", "mfenced", "mfrac", "mglyph", "mi", "min", "minus", "mlabeledtr",
   "mlongdiv", "mmultiscripts", "mn", "mo", "mode", "moment", "momentabout", "mover", "mpadded",
   "mphantom", "mprescripts", "mroot", "mrow", "ms", "mscarries", "mscarry", "msgroup", "msline",
   "mspace", "msqrt", "msrow", "mstack", "mstyle", "msub", "msubsup", "msup", "mtable", "mtd",
   "mtext", "mtr", "munder", "munderover", "naturalnumbers", "neq", "none", "not", "notanumber",
   "notin", "notprsubset", "notsubset", "or", "otherwise", "outerproduct", "partialdiff", "pi",
   "piece", "piecewise", "plus", "power", "primes", "product", "prsubset", "quotient",
   "rationals", "real", "reals", "reln", "rem", "root", "scalarproduct", "sdev", "sec", "sech",
   "selector", "semantics", "sep", "set", "setdiff", "share", "sin", "sinh", "span", "subset",
   "sum", "tan", "tanh", "tendsto", "times", "transpose", "true", "union", "uplimit", "variance",
   "vector", "vectorproduct", "xor"]

/-- Whether an element may stand directly in HTML content: SVG only as
`svg`, MathML only as `math`, and HTML unless its name belongs to SVG or
MathML (a few names shared by all are allowed). -/
def Element.fitsInHtml (e : Element) : Bool :=
  match e.ns with
  | .svg => e.name == "svg"
  | .mathml => e.name == "math"
  | .html =>
    (!svgElementNames.contains e.name && !mathmlElementNames.contains e.name) ||
      ["title", "style", "font", "a", "script", "span"].contains e.name

/-- Whether an element goes together with its content. -/
def Element.dropsContent (e : Element) : Bool :=
  e.name == "script" || e.name == "style" || (e.ns == .html && e.name == "template") || !e.fitsInHtml

/-- Append the escaped form of one text character. -/
def escapeTextChar (out : String) (c : Char) : String :=
  match c with
  | '&' => out ++ "&amp;"
  | '<' => out ++ "&lt;"
  | '>' => out ++ "&gt;"
  | c => if c.toNat == 0xA0 then out ++ "&nbsp;" else out.push c

/-- The kept text under a node, escaped, appended to `out`. The depth of
the tree bounds the recursion. -/
def keptText (d : Dom) (out : String) (i : Nat) : Nat → String
  | 0 => out
  | fuel + 1 =>
    let n := d.node i
    match n.kind with
    | .text s => s.toList.foldl escapeTextChar out
    | .comment => out
    | .element e =>
      if e.dropsContent then out
      else n.children.foldl (fun out c => keptText d out c fuel) out

/-- The text left after removing all markup, escaped and trimmed. -/
def stripMarkup (s : String) : String :=
  let d := parseFragment s
  let body := (d.node 0).children.foldl (fun out c => keptText d out c d.nodes.size) ""
  Text.trim body

end Herald.Markup
