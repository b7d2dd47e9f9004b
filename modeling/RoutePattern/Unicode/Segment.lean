import RoutePattern.Unicode.Property

/-!
The parts that code points play in the division of a text into grapheme clusters, words and
sentences. The part of most other code points has no class.
-/
namespace RoutePattern.Unicode

/-- The parts in grapheme clusters. -/
def clusterParts : List Recipe := [
  { names := ["cr"], more := "D" },
  { names := ["control", "cn"]
    parts := ["cc", "cf", "zl", "zp"]
    more := "2065 FFF0-FFF8 E0000 E0002-E001F E0080-E00FF E01F0-E0FFF"
    fewer := "A D 600-605 6DD 70F 890-891 8E2 200C-200D 110BD 110CD E0020-E007F" },
  { names := ["extend", "ex"], parts := ["graphemeextend", "emojimodifier"] },
  { names := ["l"], more := "1100-115F A960-A97C" },
  { names := ["lf"], more := "A" },
  { names := ["lv"], more := "AC00-D788/1C" },
  { names := ["lvt"], more := "AC00-D7A3", fewer := "AC00-D788/1C" },
  { names := ["prepend", "pp"]
    more := "600-605 6DD 70F 890-891 8E2 D4E 110BD 110CD 111C2-111C3 113D1 1193F 11941 11A3A
      11A84-11A89 11D46 11F02" },
  { names := ["regionalindicator", "ri"], more := "1F1E6-1F1FF" },
  { names := ["spacingmark", "sm"]
    parts := ["mc"]
    without := ["graphemeextend"]
    more := "E33 EB3"
    fewer := "102B-102C 1038 1062-1064 1067-106D 1083 1087-108C 108F 109A-109C 1A61 1A63-1A64
      AA7B AA7D 11720-11721" },
  { names := ["t"], more := "11A8-11FF D7CB-D7FB" },
  { names := ["v"], more := "1160-11A7 D7B0-D7C6 16D63 16D67-16D6A" },
  { names := ["zwj"], more := "200D" }]

/-- The parts in words. -/
def wordParts : List Recipe := [
  { names := ["aletter", "le"]
    parts := ["alphabetic"]
    without := ["ideographic", "graphemeextend", "mc", "hiragana", "katakana"]
    more := "2C2-2C5 2D2-2D7 2DE-2DF 2E5-2EB 2ED 2EF-2FF 55A-55C 55E 58A 5F3 70F A708-A716
      A720-A721 A789-A78A AB5B"
    fewer := "5D0-5EA 5EF-5F2 E01-E30 E32-E33 E40-E46 E81-E82 E84 E86-E8A E8C-EA3 EA5 EA7-EB0
      EB2-EB3 EBD EC0-EC4 EC6 EDC-EDF 1000-102A 103F 1050-1055 105A-105D 1061 1065-1066 106E-1070
      1075-1081 108E 1780-17B3 17D7 17DC 1950-196D 1970-1974 1980-19AB 19B0-19C9 1A20-1A54 1AA7
      3031-3035 30FC A9E0-A9E4 A9E6-A9EF A9FA-A9FE AA60-AA76 AA7A AA7E-AAAF AAB1 AAB5-AAB6
      AAB9-AABD AAC0 AAC2 AADB-AADD FB1D FB1F-FB28 FB2A-FB36 FB38-FB3C FB3E FB40-FB41 FB43-FB44
      FB46-FB4F FF70 11700-1171A 11740-11746" },
  { names := ["cr"], more := "D" },
  { names := ["doublequote", "dq"], more := "22" },
  { names := ["extend"], parts := ["graphemeextend", "mc", "emojimodifier"] },
  { names := ["extendnumlet", "ex"], more := "5F 202F 203F-2040 2054 FE33-FE34 FE4D-FE4F FF3F" },
  { names := ["format", "fo"]
    parts := ["cf"]
    fewer := "600-605 6DD 70F 890-891 8E2 200B-200D 110BD 110CD E0020-E007F" },
  { names := ["hebrewletter", "hl"]
    more := "5D0-5EA 5EF-5F2 FB1D FB1F-FB28 FB2A-FB36 FB38-FB3C FB3E FB40-FB41 FB43-FB44
      FB46-FB4F" },
  { names := ["katakana", "ka"]
    parts := ["katakana"]
    more := "3031-3035 309B-309C 30A0 30FC FF70" },
  { names := ["lf"], more := "A" },
  { names := ["midletter", "ml"], more := "3A B7 387 55F 5F4 2027 FE13 FE55 FF1A" },
  { names := ["midnum", "mn"], more := "2C 3B 37E 589 60C-60D 66C 7F8 2044 FE50 FE54 FF0C FF1B" },
  { names := ["midnumlet", "mb"], more := "2E 2018-2019 2024 FE52 FF07 FF0E" },
  { names := ["newline", "nl"], more := "B-C 85 2028-2029" },
  { names := ["numeric", "nu"]
    parts := ["nd"]
    more := "600-605 66B 6DD 890-891 8E2 19DA 110BD 110CD" },
  { names := ["regionalindicator", "ri"], more := "1F1E6-1F1FF" },
  { names := ["singlequote", "sq"], more := "27" },
  { names := ["wsegspace"], more := "20 1680 2000-2006 2008-200A 205F 3000" },
  { names := ["zwj"], more := "200D" }]

/-- The parts in sentences. -/
def sentenceParts : List Recipe := [
  { names := ["aterm", "at"], more := "2E 2024 FE52 FF0E" },
  { names := ["cr"], more := "D" },
  { names := ["close", "cl"]
    parts := ["ps", "pe", "pi", "pf"]
    more := "22 27 275B-2760 2E00-2E01 2E06-2E08 2E0B 1F676-1F678" },
  { names := ["extend", "ex"], parts := ["graphemeextend", "mc"], more := "200D" },
  { names := ["format", "fo"]
    parts := ["cf"]
    fewer := "600-605 6DD 890-891 8E2 200C-200D 110BD 110CD E0020-E007F" },
  { names := ["lf"], more := "A" },
  { names := ["lower", "lo"]
    parts := ["lowercase"]
    without := ["graphemeextend"]
    fewer := "10D0-10FA 10FD-10FF" },
  { names := ["numeric", "nu"]
    parts := ["nd"]
    more := "600-605 66B-66C 6DD 890-891 8E2 19DA 110BD 110CD" },
  { names := ["oletter", "le"]
    parts := ["alphabetic"]
    without := ["lowercase", "uppercase", "lt", "graphemeextend", "mc"]
    more := "5F3 10D0-10FA 10FD-10FF 1C90-1CBA 1CBD-1CBF" },
  { names := ["scontinue", "sc"]
    more := "2C-2D 3A-3B 37E 55D 60C-60D 7F8 1802 1808 2013-2014 3001 FE10-FE11 FE13-FE14
      FE31-FE32 FE50-FE51 FE54-FE55 FE58 FE63 FF0C-FF0D FF1A-FF1B FF64" },
  { names := ["sterm", "st"], parts := ["sentenceterminal"], fewer := "2E 2024 FE52 FF0E" },
  { names := ["sep", "se"], more := "85 2028-2029" },
  { names := ["sp"], more := "9 B-C 20 A0 1680 2000-200A 202F 205F 3000" },
  { names := ["upper", "up"], parts := ["uppercase", "lt"], fewer := "1C90-1CBA 1CBD-1CBF" }]

/-- The code points with a part in grapheme clusters. -/
def cluster? : Sets := Sets.ofRecipes property? clusterParts

/-- The code points with a part in words. -/
def wordPart? : Sets := Sets.ofRecipes property? wordParts

/-- The code points with a part in sentences. -/
def sentencePart? : Sets := Sets.ofRecipes property? sentenceParts

end RoutePattern.Unicode
