import EntityStore.Query
import EntityStore.Predicate.Builder

/-! A library: authors and their books. -/

namespace EntityStore.Library

/-- An author with books. -/
def author : EntityType :=
  { name := "Author"
    fields :=
      [.identifier "id",
        .scalar "name" .string,
        .new "books" .many (.reference "Book")] }

/-- A book. -/
def book : EntityType :=
  { name := "Book"
    fields :=
      [.identifier "id",
        .scalar "title" .string,
        .scalar "pages" .int32,
        .new "tags" .many (.scalar .string),
        .new "published" .option (.scalar .timestamp),
        .new "read" .option (.scalar .bool),
        .textual "format" .format] }

/-- The model of a library. -/
def model : Model :=
  { name := "Library", entities := [author, book] }

/-- The books with more than some pages, the longest first. -/
def longBooks (minPages : Int32) : Query :=
  let pages := KeyPath.root.step "pages" false
  QuerySpec.new
    |>.filterBy (.one (TypedComparison.predicate pages (.greaterThan (.integer minPages.toInt64))))
    |>.sortBy (.one { key := "pages", ascending := false })
    |>.query model book.name

/-- The authors of some book with a tag, by name. -/
def authorsTagged (tag : String) : Query :=
  let tags := (KeyPath.root.step "books" true).step "tags" true
  QuerySpec.new
    |>.filterBy (.one (TypedComparison.predicate tags (.equals (.string tag))))
    |>.sortBy (.one { key := "name", ascending := true })
    |>.query model author.name

end EntityStore.Library
