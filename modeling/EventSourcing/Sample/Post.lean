import EventSourcing.Aggregate.Basic
import EventSourcing.Sample.Identifiers
import EventSourcing.Text.Blank

/-!
# Posts

A post is drafted, retitled and published.  A title is never blank, and a published post keeps its
title.

## Main Definitions

* `post` — the kind of aggregates.
* `Post.draft`, `Post.retitle`, `Post.publish` — its commands.
-/

namespace EventSourcing.Sample

/-- What happens to a post. -/
inductive PostEvent where
  | drafted (title author : String)
  | retitled (title : String)
  | published
  deriving DecidableEq

namespace PostEvent

/-- A post is drafted. -/
def draftedType : EventType :=
  ⟨"PostDrafted", "post-drafted",
    .record "PostDrafted" (.cons "title" .string (.cons "author" .string .nil))⟩

/-- A post gets another title. -/
def retitledType : EventType :=
  ⟨"PostRetitled", "post-retitled", .record "PostRetitled" (.cons "title" .string .nil)⟩

/-- A post is published. -/
def publishedType : EventType := ⟨"PostPublished", "post-published.v1", .unit "PostPublished"⟩

/-- The events and their types. -/
def set : EventSet PostEvent where
  types := [draftedType, retitledType, publishedType]
  toMember
    | .drafted title author => .here (title, author, ())
    | .retitled title => .there (.here (title, ()))
    | .published => .there (.there (.here ()))
  ofMember
    | .here (title, author, ()) => .drafted title author
    | .there (.here (title, ())) => .retitled title
    | .there (.there (.here ())) => .published
  ofMember_toMember e := by cases e <;> rfl
  toMember_ofMember
    | .here (_, _, ()) => rfl
    | .there (.here (_, ())) => rfl
    | .there (.there (.here ())) => rfl

end PostEvent

/-- The state of a post. -/
structure Post where
  title : String
  author : String
  published : Bool
  revisions : UInt32
  deriving DecidableEq

instance : Described Post where
  schema := .record "Post" (.cons "title" .string (.cons "author" .string (.cons "published" .bool
    (.cons "revisions" .u32 .nil))))
  toValue p := (p.title, p.author, p.published, p.revisions, ())
  ofValue v := ⟨v.1, v.2.1, v.2.2.1, v.2.2.2.1⟩
  ofValue_toValue _ := rfl

/-- The state of a post after an event. -/
def Post.apply : PostEvent → Post → Post
  | .drafted title author, p => { p with title := title, author := author }
  | .retitled title, p => { p with title := title, revisions := p.revisions + 1 }
  | .published, p => { p with published := true }

/-- Posts. -/
def post : Aggregate PostId where
  kind := "post"
  tenantScoped := false
  State := Post
  Event := PostEvent
  Error := Violation
  ofViolation v := v
  initial := ⟨"", "", false, 0⟩
  apply := Post.apply
  events := PostEvent.set
  form := .described "Post" Post

/-- A title must not be blank. -/
def titleNotBlank (title : String) : Rule where
  name := Rule.nameOfType "TitleNotBlank"
  message := "title must not be blank"
  parameters := [("title", .str title)]
  broken := Text.isBlank title

/-- The post must not be published. -/
def notYetPublished (published : Bool) : Rule where
  name := "not-yet-published"
  message := "post is already published"
  parameters := []
  broken := published

namespace Post

/-- Drafts a post. -/
def draft (title author : String) : Command post := fun _ => do
  post.check (titleNotBlank title)
  return [PostEvent.drafted title author]

/-- Gives a post another title. -/
def retitle (title : String) : Command post := fun (p : Post) => do
  post.check (titleNotBlank title)
  post.check (notYetPublished p.published)
  return [PostEvent.retitled title]

/-- Publishes a post. -/
def publish : Command post := fun (p : Post) => do
  post.check (notYetPublished p.published)
  return [PostEvent.published]

end Post
end EventSourcing.Sample
