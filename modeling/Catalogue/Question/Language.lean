import Catalogue.Text.Case
import Catalogue.Text.Space

/-! Language names and the codes under which the catalogue files them. -/
namespace Catalogue.Question

/-- Names in lower case, with their codes. -/
def languageCodes : List (String × String) := [
  ("arabic", "ara"), ("aramaic", "arc"), ("armenian", "arm"), ("chinese", "chi"), ("czech", "cze"),
  ("danish", "dan"), ("dutch", "dut"), ("english", "eng"), ("french", "fre"), ("german", "ger"),
  ("greek", "gre"), ("hebrew", "heb"), ("hungarian", "hun"), ("italian", "ita"),
  ("japanese", "jpn"), ("judeo-arabic", "jrb"), ("ladino", "lad"), ("latin", "lat"),
  ("persian", "per"), ("polish", "pol"), ("portuguese", "por"), ("russian", "rus"),
  ("spanish", "spa"), ("swedish", "swe"), ("syriac", "syr"), ("turkish", "tur"),
  ("yiddish", "yid")]

/-- The code of a language name, in any case. -/
def languageCode? (name : String) : Option String :=
  (languageCodes.find? (·.1 == Text.lowercase (Text.trim name))).map (·.2)

def isLanguageName (word : String) : Bool := (languageCode? word).isSome

/-- The code of a language name; an unknown name stands for itself, in lower case. -/
def languageCode (name : String) : String :=
  (languageCode? name).getD (Text.lowercase (Text.trim name))

end Catalogue.Question
