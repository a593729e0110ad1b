import LinkLedger.Link.Kind
import LinkLedger.Text.Blank
import LinkLedger.Text.Search

/-!
# Settings

What is collected from content, which links are tracked, how they are checked, and the address of
the site.
-/

namespace LinkLedger

/-- The categories of elements that links are collected from. -/
structure Categories where
  anchors : Bool
  audio : Bool
  embeds : Bool
  frames : Bool
  images : Bool
  objects : Bool
  videos : Bool
  deriving DecidableEq, Repr

/-- Hyperlinks only. -/
def Categories.standard : Categories :=
  ⟨true, false, false, false, false, false, false⟩

/-- Every category. -/
def Categories.all : Categories :=
  ⟨true, true, true, true, true, true, true⟩

instance : Inhabited Categories := ⟨.standard⟩

/-- How links are checked: the excluded patterns, one a line, the number of requests at a time, and
the seconds that one of them may take. -/
structure CheckSettings where
  excluded : String
  concurrency : Nat
  timeout : Nat
  deriving DecidableEq, Repr

/-- The reserved example hosts excluded, fifty requests at a time, thirty seconds each. -/
def CheckSettings.standard : CheckSettings :=
  ⟨"example.com\nexample.net\nexample.org", 50, 30⟩

instance : Inhabited CheckSettings := ⟨.standard⟩

/-- All settings. -/
structure Settings where
  categories : Categories
  check : CheckSettings
  kinds : KindFilter
  scheme : String
  sitePath : String
  pageSize : Nat
  deriving DecidableEq, Repr

/-- The settings in force where a document is silent. -/
def Settings.standard : Settings :=
  ⟨.standard, .standard, .all, "http://", "localhost", 50⟩

instance : Inhabited Settings := ⟨.standard⟩

namespace Settings

open Text

/-- The address of the site: scheme, host and directory, without a final slash. -/
def siteUrl (s : Settings) : String :=
  let scheme := trimEndBy (· == ':') (trimEndRepeats "://".toList s.scheme.toList)
  let place := trimEndBy (· == '/') (s.sitePath.toList.dropWhile (· == '/'))
  String.ofList (scheme ++ "://".toList ++ place)

/-- The excluded patterns: the lines that are not blank, trimmed. -/
def excludedPatterns (s : Settings) : List String :=
  (((s.check.excluded.toList.splitOn '\n').map trim).filter fun line => !line.isEmpty).map
    String.ofList

end Settings

end LinkLedger
