import Stencil.Files.PurePath
import Stencil.Text.Blank

/-!
# Settings

What a host can set.

## Main definitions

* `Settings`: The settings and what they are if nothing is set.
* `Settings.templatePath`: The path of a template, from its name in a codeblock.
-/

namespace Stencil

/-- What a host can set. -/
structure Settings where
  /-- The directory of the templates, seen from the root of the loader. -/
  templateDir : String := "HTML"
  /-- What is added to the name of a template. -/
  templateSuffix : String := ".html"
  /-- The key of the property that names the template. -/
  templateKey : String := "template"
  /-- The style class of the elements that values are wrapped into. -/
  markdownClass : String := "cf-markdown"
  /-- Whether templates that use a name in two ways are refused. -/
  strict : Bool := false
  /-- How many messages are shown. -/
  verbosity : Int := 1
  /-- The style that sources are displayed in. -/
  style : String := "default"
  /-- Whether the source is displayed with a failure. -/
  showsSource : Bool := true
deriving DecidableEq, Repr

/-- The path of a template, from its name in a codeblock. -/
def Settings.templatePath (s : Settings) (name : String) : String :=
  ((Files.PurePath.ofText s.templateDir).join
    (.ofText (Text.strip name ++ s.templateSuffix))).text

end Stencil
