import Listings.Entity.Basic
import Listings.FieldTable
import Listings.Text.Slug

/-!
# The listed entities

One entity for each listing. Tags are stored by their slugs.
-/

namespace Listings.Catalog

/-! ## Parts that entities share -/

/-- The association with tags. -/
def tags : String := "tags"

/-- Members of the tags are stored by slug; there are no other associations. -/
def tagId? (association name : String) : Option String :=
  if association = tags then some (Text.slug name) else none

/-- The association with tags through a table. -/
def tagTable? (table row member : String) (association : String) : Option Association :=
  if association = tags then some ⟨⟨table⟩, ⟨row⟩, ⟨member⟩⟩ else none

/-- Functions by name. -/
def functions (table : List (String × Function)) (name : String) : Option Function :=
  table.lookup name

/-- The test for tags, of rows with their id in a column. -/
def hasTag (id : String) : String × Function := ("hasTag", .inTable tags ⟨id⟩)

/-- The test of the type. -/
def hasType : String × Function := ("hasType", .inColumn "type")

/-- The test of the status. -/
def hasStatus : String × Function := ("hasStatus", .inColumn "status")

/-- From the least value of a column to the greatest. -/
def ascending (path : String) : SortKey := ⟨⟨path⟩, .ascending⟩

/-! ## Fields -/

/-- The fields of media. -/
def mediaFields : FieldTable :=
  [("id", .required .string "media.id"),
    ("malId", .optional .string "media.mal_id"),
    ("tmdbId", .optional .string "media.tmdb_id"),
    ("title", .required .string "media.title"),
    ("type", .required .string "media.type"),
    ("status", .required .string "media.status"),
    ("rating", .required .string "media.rating"),
    ("airingSeason", .optional .string "media.airing_season"),
    ("score", .optional .number "media.score"),
    ("episodeCount", .optional .number "media.episode_count"),
    ("startDate", .optional .date "media.start_date"),
    ("endDate", .optional .date "media.end_date"),
    ("userList", .optional .string "user_data.list"),
    ("created", .required .number "media.created"),
    ("updated", .required .number "media.updated")]

/-- The fields of releases. -/
def releaseFields : FieldTable :=
  [("mediaId", .required .string "media.id"),
    ("malId", .optional .string "media.mal_id"),
    ("tmdbId", .optional .string "media.tmdb_id"),
    ("title", .required .string "media.title"),
    ("status", .required .string "media.status"),
    ("airingSeason", .optional .string "media.airing_season"),
    ("score", .optional .number "media.score"),
    ("userList", .optional .string "user_data.list"),
    ("userScore", .optional .number "user_data.score")]

/-- The fields of collections. -/
def collectionFields : FieldTable :=
  [("id", .required .string "collections.id"), ("name", .required .string "collections.name")]

/-- The fields of animes. -/
def animeFields : FieldTable :=
  [("id", .required .string "animes.id"),
    ("title", .required .string "animes.title"),
    ("status", .required .string "animes.status"),
    ("airingSeason", .optional .string "animes.airing_season"),
    ("score", .optional .number "animes.score"),
    ("episodeCount", .optional .number "animes.episode_count"),
    ("lastDataFetch", .optional .number "animes.last_data_fetch"),
    ("userList", .optional .string "user_data.list")]

/-- The fields of notifications; whether one has been read is 0 or 1. -/
def notificationFields : FieldTable :=
  [("id", .required .string "notifications.id"),
    ("type", .required .string "notifications.type"),
    ("title", .required .string "notifications.title"),
    ("isRead", .required .number "notifications.is_read"),
    ("created", .required .number "notifications.created"),
    ("updated", .required .number "notifications.updated")]

/-- The fields of shows. -/
def showFields : FieldTable :=
  [("id", .required .string "shows.id"),
    ("type", .required .string "shows.type"),
    ("name", .required .string "shows.name"),
    ("searchSlug", .required .string "shows.search_slug"),
    ("created", .required .number "shows.created"),
    ("updated", .required .number "shows.updated")]

/-! ## Entities -/

/-- Media. -/
def media : Entity where
  defaultSort := ascending "media.title"
  column? := mediaFields.find?
  id? := tagId?
  association? := tagTable? "media_tags" "media_id" "tag_slug"
  function? := functions [hasTag "media.id", hasType, hasStatus]

/-- Animes. -/
def anime : Entity where
  defaultSort := ascending "animes.title"
  column? := animeFields.find?
  id? := tagId?
  association? := tagTable? "anime_tags" "anime_id" "tag_slug"
  function? := functions [hasTag "animes.id", hasStatus]

/-- Collections. -/
def collection : Entity where
  defaultSort := ascending "collections.name"
  column? := collectionFields.find?

/-- Notifications. -/
def notification : Entity where
  defaultSort := ascending "notifications.created"
  column? := notificationFields.find?
  function? := functions [hasType]

/-- Releases. -/
def release : Entity where
  defaultSort := ascending "media.title"
  column? := releaseFields.find?
  id? := tagId?
  association? := tagTable? "media_tags" "media_id" "tag_slug"
  function? := functions [hasTag "media.id"]

/-- Shows. -/
def shows : Entity where
  defaultSort := ascending "shows.name"
  column? := showFields.find?
  function? := functions [hasType]

end Listings.Catalog
