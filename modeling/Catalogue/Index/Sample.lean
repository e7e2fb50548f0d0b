import Catalogue.Index.Description

/-! A small index to try things on. Four of its six books are by one publisher and
from the sixteenth century, its first and last years among them; one is by that
publisher and from the year after, and one is by another. -/
namespace Catalogue.Index

/-- A printer, recorded as a person. -/
def printer (name : String) : Agent := ⟨name, "Printer", "personal", "700"⟩

/-- Six books. -/
def sampleDescriptions : List Description := [
  { key := "990001", publisher := some "X", place := some "Venice", country := some ("it", "Italy"),
    years := some (1500, 1500), languages := ["lat"], titles := ["De alchimia opuscula"],
    subjects := ["Alchemy -- Early works to 1800"], agents := [printer "Manutius, Aldus"] },
  { key := "990002", publisher := some "[X]", place := some "[Venice]", country := some ("it", "Italy"),
    years := some (1550, 1550), languages := ["lat"], titles := ["Opus alchemicum"],
    subjects := ["Alchemy -- Early works to 1800"], agents := [] },
  { key := "990003", publisher := some "X.", place := some "Paris", country := some ("fr", "France"),
    years := some (1599, 1599), languages := ["fre"], titles := ["Traicté de la cabale"],
    subjects := ["Cabala"], agents := [] },
  { key := "990004", publisher := some "X", place := some "Venice", country := some ("it", "Italy"),
    years := some (1520, 1530), languages := ["heb"], titles := ["Sefer ha-shorashim"],
    subjects := ["Alchemy -- Early works to 1800"], agents := [printer "Bomberg, Daniel"] },
  { key := "990005", publisher := some "X", place := some "Paris", country := some ("fr", "France"),
    years := some (1600, 1600), languages := ["lat"], titles := ["Cabala denudata"],
    subjects := ["Cabala"], agents := [] },
  { key := "990006", publisher := some "Y", place := some "Amsterdam",
    country := some ("ne", "Netherlands"), years := some (1550, 1550), languages := ["heb"],
    titles := ["Dikduk"], subjects := ["Hebrew language -- Grammar"],
    agents := [printer "Athias, Joseph"] }]

/-- The index of the six books. -/
def sample : Index := ((empty.describeAll? sampleDescriptions).map (·.2)).getD empty

end Catalogue.Index
