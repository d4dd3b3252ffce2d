import Blueprint.OrderedMap
import Blueprint.Text.Inspected
import Blueprint.Text.Lowercase
import Blueprint.Variant

/-!
# Catalogs

A catalog is a registry of variants by type tag, in order of first registration.  An alias binds a
second tag to the variant that a tag has at that moment.
-/

namespace Blueprint

/-- A registry of variants by type tag. -/
abbrev Catalog := OrderedMap Variant

/-- A line of the palette: a registered tag with its variant's captions. -/
structure CatalogEntry where
  /-- The tag under which the variant is registered. -/
  tag : String
  /-- The family. -/
  category : Category
  /-- The caption. -/
  title : String
  /-- One line of help. -/
  description : String
  deriving DecidableEq, Inhabited

namespace Catalog

/-- The catalog without variants. -/
def empty : Catalog := OrderedMap.empty

/-- Registers a variant under its own tag, over an earlier one. -/
def register (catalog : Catalog) (variant : Variant) : Catalog :=
  catalog.insert variant.tag variant

/-- Registers each variant of a list in turn. -/
def registerAll (catalog : Catalog) (variants : List Variant) : Catalog :=
  variants.foldl register catalog

/-- Binds a tag to the variant that another one has now.  If that one is not registered, the
catalog stays as it is. -/
def withAlias (catalog : Catalog) (tag target : String) : Catalog :=
  match catalog.get? target with
  | some variant => catalog.insert tag variant
  | none => catalog

/-- The registered tags in order of first registration. -/
def tags (catalog : Catalog) : List String := catalog.keys

/-- The tag is registered. -/
def contains (catalog : Catalog) (tag : String) : Bool := (catalog.get? tag).isSome

/-- The palette line of a registered tag. -/
def entry? (catalog : Catalog) (tag : String) : Option CatalogEntry :=
  (catalog.get? tag).map fun variant =>
    ⟨tag, variant.category, variant.title, variant.description⟩

/-- Every palette line, in order. -/
def palette (catalog : Catalog) : List CatalogEntry := catalog.tags.filterMap catalog.entry?

/-- The palette lines of one category. -/
def byCategory (catalog : Catalog) (category : Category) : List CatalogEntry :=
  catalog.palette.filter (·.category == category)

/-- Whether `part` occurs in a text. -/
def occursIn (part : List Char) : List Char → Bool
  | [] => part.isEmpty
  | c :: rest => part.isPrefixOf (c :: rest) || occursIn part rest

/-- The lower-cased keyword occurs in a text in lower case. -/
def mentions (keyword : String) (text : String) : Bool :=
  occursIn keyword.toList (Text.lower text).toList

/-- The palette lines that mention a keyword in tag, caption or help, whatever the case. -/
def search (catalog : Catalog) (keyword : String) : List CatalogEntry :=
  let keyword := Text.lower keyword
  catalog.palette.filter fun entry =>
    mentions keyword entry.tag || mentions keyword entry.title
      || mentions keyword entry.description

/-- The catalog in diagnostic output. -/
def inspect (catalog : Catalog) : String :=
  "NodeCatalog \x7b node_types: [" ++ ", ".intercalate (catalog.tags.map Text.inspected)
    ++ "] \x7d"

end Catalog

end Blueprint
