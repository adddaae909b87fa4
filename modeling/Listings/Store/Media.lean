import Listings.Binary64.Rounding
import Listings.Entity.Catalog
import Listings.Store.Connection

/-!
# A small media database

Five media with their tags, and the lists of two users.

* `mediaDatabase`: the tables.
* `mediaListing`: the listing of media as `user` sees it.
* `titles`, `allTitles`: titles of the listing.
-/

namespace Listings.Store

/-- The user whose lists the media listing shows. -/
def user : String := "alice"

/-! ## Tables -/

/-- A text cell. -/
def textCell (s : String) : Value := .text s

/-- A cell with a whole number. -/
def integerCell (n : Nat) : Value := .integer (.ofNat n)

/-- A cell with a number of one decimal place. -/
def tenths (n : Nat) : Value := .real (.ofDecimal false n 1)

/-- The media. -/
def mediaTable : Table where
  name := "media"
  columns :=
    ["id", "mal_id", "tmdb_id", "title", "type", "status", "rating", "airing_season", "score",
      "episode_count", "start_date", "end_date", "created", "updated"]
  rows :=
    [[textCell "m1", textCell "47", .null, textCell "Akira", textCell "movie", textCell "finished",
        textCell "r", .null, tenths 81, integerCell 1, textCell "1988-07-16", textCell "1988-07-16",
        integerCell 100, integerCell 100],
      [textCell "m2", textCell "57334", .null, textCell "Dandadan", textCell "tv", textCell "airing",
        textCell "pg-13", textCell "fall-2024", tenths 85, integerCell 12, textCell "2024-10-04",
        .null, integerCell 200, integerCell 210],
      [textCell "m3", textCell "52991", .null, textCell "Frieren", textCell "tv", textCell "airing",
        textCell "pg-13", textCell "fall-2023", .null, integerCell 28, textCell "2023-09-29", .null,
        integerCell 300, integerCell 300],
      [textCell "m4", .null, .null, textCell "Kaiju No. 8", textCell "tv", textCell "airing",
        textCell "pg-13", textCell "spring-2024", tenths 79, integerCell 12, textCell "2024-04-13",
        .null, integerCell 400, integerCell 420],
      [textCell "m5", .null, textCell "1234", textCell "Bocchi the Rock! Recap", textCell "special",
        textCell "finished", textCell "pg-13", .null, .null, .null, .null, .null, integerCell 500,
        integerCell 500]]

/-- The tags of the media. -/
def tagTable : Table where
  name := "media_tags"
  columns := ["media_id", "tag_slug"]
  rows :=
    [("m1", "action"), ("m1", "sci-fi"), ("m2", "action"), ("m2", "comedy"), ("m3", "fantasy"),
      ("m4", "action"), ("m5", "comedy"), ("m5", "music"), ("m5", "slice-of-life")].map
      fun (media, tag) => [textCell media, textCell tag]

/-- The lists of the users. -/
def userTable : Table where
  name := "user_data"
  columns := ["media_id", "user_id", "list", "score"]
  rows :=
    [[textCell "m2", textCell "alice", textCell "watching", integerCell 9],
      [textCell "m3", textCell "alice", textCell "completed", integerCell 10],
      [textCell "m1", textCell "bob", textCell "watching", integerCell 7]]

/-- The media with their tags and lists. -/
def mediaDatabase : Database := ⟨[mediaTable, tagTable, userTable]⟩

/-! ## The listing -/

/-- The media with what `user` has noted about them. -/
def mediaBase : BaseQuery :=
  BaseQuery.leftJoin
    (BaseQuery.columns { table := ⟨"media"⟩ } [⟨"media.id"⟩, ⟨"media.title"⟩])
    ⟨"user_data"⟩
    [.columns ⟨"user_data.media_id"⟩ ⟨"media.id"⟩, .value ⟨"user_data.user_id"⟩ (.text user)]

/-- The listing of media as `user` sees it. -/
def mediaListing : Listing := { entity := Catalog.media, base := mediaBase }

/-- The titles on one page of the media listing. -/
def titles (filter sort : String) (request : PageRequest) :
    Run Connection (ListError StoreError) (List String × Page) :=
  mediaListing.fetch (Connection.executor (Reader.text 1)) filter sort request

/-- The titles of all media that satisfy a filter, or why there are none in words. -/
def allTitles (filter sort : String) : Run Connection String (List String) := do
  let explain := fun (e : ListError StoreError) =>
    "listing " ++ Text.quote filter ++ " sorted by " ++ Text.quote sort ++ " failed: "
      ++ e.message StoreError.message
  let (found, _) ← (titles filter sort ⟨0, 0⟩).adapt explain
  return found

end Listings.Store
