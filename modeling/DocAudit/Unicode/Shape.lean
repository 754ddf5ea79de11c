import DocAudit.Unicode.Packed

/-!
# Characters with a shape of their own

What may be shown as it is.  Controls, formats, private and unassigned code points have no shape,
nor has any separator but the space; the marks that extend a grapheme merge with the character
before them.
-/

namespace DocAudit.Unicode

/-- The packed code points of characters with a shape. -/
def printableText : List String :=
  ["BgDqBilbBBlcfegbabtbPgbBlcBxccbCciBaefrvbHjbBvcCgcDwoCgcBwcobBbcabkfBfhCwbGebhcbcvbgbaddci",
   "cbcdiaebbecyccbfebcvbgbbbbbbcabeebccdahdbahqkcbibcbvbgbbbecjbcbccapdclhgbcbhcbcvbgbbbecicb",
   "cchcebbecrkbbfdcbddbbabbdbdcdleedcbdcagaoufmbcbwbpcibcbdhbbcbbcdcjhvbcbwbjbecibcbdhbfcbdcj",
   "bcmmbcbBybcbfepczbcbrdxbibacgdaefbabhgjccmCfeBcBlbbabebxbabwcebabgbjcdBgCtbBjeBmbBjbobmBlH",
   "pbafacOmbdcgbabdcBobdcBgbdcgbabdcobCebdcCocBfdzgDhcfcYpbBbdDkhvjxjtmmbcbbmDpcjgjgnbkgDkhBq",
   "fCrkBebleleadBpcelBrezgkdCjcCmbBcckgjgncBtcluCybGjiChdodCjfBqckiBqfUncfcBlcfchbabababBecCa",
   "bobncfbsccbirxiBurbcBabmdBhoBgpFjeZpwkvCRrcOrfBsbafacCdhboxjgbgbgbgbgbgbgbgbEvBizbDkmIfBap",
   "bCkbDhcDyfBqbDpbDhjBvbBRIqdCcjNjuHbiImuChdjgCdiCrilgEllBddCzbkeBgbCcjncjcDyyBbkfcfcfjgbgbC",
   "heEvcjgQNrmweBwMNcObcEbBmgmefzbebabbbbbYzBgBpgBybsbdeebFeeHhdfcfcfccdgbgnbclbzbsbbbocnBiEs",
   "fceBsdDjbmdaBvBtFaBcdBwpBbeBjjBdfBqfBdbBkenBqGbcjgBjeBjeBniBzllbobgbbbkbobgbbdBzmLyjvkhyfb",
   "BpbiCrfcabBrbbdacwbCtiiBwsbbfBgdBafBaBmCdetcBxbbfhbcbBcccejhihClBgBmeljCbdBccBafzhdmgDcCuC",
   "dBynByhBtijgBldBcibIaBebBpbccbqfiiBhBtiBpwzBmBbuwjCzeBjjCjbenyhjgCabriBmjDrbtlrbBuCkgbabdb",
   "obkgCgfjgdbhcbcvbgbbbebjcbcccagafgcgdeljbacabBlbjbacabdbjbbibBdDnbeBeCtijGkCbcBlBiCqljgmtC",
   "fgjgtBcBacoewHdChDwDemhcachbbbBdbbcljjCshcBtckBbCtiDenCuhjDihDkBhojgibBsbnkBcdBfcvbnCvgbbb",
   "BrdabbbiijgfbbbBkbbbfhjgBrejJmyhqbBodBcDhapBxnBJmDyEgbelHnDXkDunBPfqvkFXqfWkKDdCfCOsVwhBeb",
   "jeDcbjgBdcfkCrkjbgbufsQqCfHqDmfycyBsCweCehqCmelgjKXxBpBfDtEkMWrdbgbbbLepaBdccaodiPfDKuEcfm",
   "dihjcdFVkJsdQtgwpqpBtcwjElCiJlkBmcCviEhvCrEstmtmDijyFfDgbCsbbcacbcdblbabgbCmbdchbgbBbbdbeb",
   "adgbNbcLfcBAzpeboBQmBegfIfgbqcgbbbefCjBhaEiBsdncjebMiBerCffaRwBpIgBqeaHkBebvibIqgbdbbbobHo",
   "cpBpCxejebBEfCpCyCiHmdbBabbbacabjbdbabagaeabababcbbbacabababababbbacdbgbdbdbabjbqfcbebqCab",
   "KkBreDvmocobobBkkGrCeBcnBreihbofFyBLwdqdmdIjgleapleCdijgBniBdcleboiBnNfincmdkdCebaepclejhF",
   "qbDyBNpCLFbBgGMncIObcLBkpXxDQwUvCFyHHyfMOnBOGXyJf"]

/-- The packed code points of marks that extend the character before them. -/
def extendingText : List String :=
  ["BDoEhKpgKdBsbabbbbbaCukBwuqaDxgcfcbbdBjaBeBaDnkCgijaydbibcbeBrcChiBqxbBfCdabaeheadgkbBdaCg",
   "abacdiajakbBaacbCfaebebccdaBebdalbCfaeebbeaubwfbaCgabbbdiahckbBeaChabamajaBoadaCdabcfcbdhb",
   "lbBdaCgacbbadcbdhblbBcbCfbbacdiajakbBdaCuaeaccbaiaDdacgmhDuacilgCvbBbababaCdnbebbfkbBjjaDy",
   "dbfbbcbzbecqdnacbgapaBBbcBKkdBccBdbBebCmbbgiackjaBtcbaEnbBiaEocebjagcIlbcaCgabgbabachgjcaB",
   "wBtcludBwjecBmimbBgdcfCeabbdabeCehcbFwcbmbgeagadbHqClUeaHnBgEOccFlaDsBfVifEbbBSQedbjBgbDcb",
   "KmadaeazbfaFvbBarnaBmhzkbaBscBwacdcbcaBkaCpfcbcbmaiaBvaBzabccbfbbaBqbiaJeacaeaBDZsaBCjpqpB",
   "LlaIsaFteCMgcbbfdBoceaGjbWbdCneMfbCzfCskBxdEtaCcoBpacbkcBxdcbhaCjcBkebhCkambCaibaidcaDrccd",
   "gacaGbadhvbCfbbabamajaogdeCpacfbacabcecbaobDhhccbaxaDdacfbacabbbbJbacdgbbbBbbDhhcabbEcabac",
   "hDxabacdbeJzibbJlakdeaFodcbeaBgjBofcdiajfccBumbbHqabcbaHtgbfbaDevcgbbbbEsfdabbbgbaCubdabaN",
   "jblbCaefcxaHXtagoQYyldcDSaeChgBOiaCldDdalbBDAxbGYzBtcwUwedfihcgBedFscCYdCceBxiaoaweboCAigb",
   "qcgbbbeDwaGegOlaCjdTodJubJjacahbfaSggEfgBTCAfDrEyJf"]

def printableRanges : List (Nat × Nat) := unpack printableText

def extendingRanges : List (Nat × Nat) := unpack extendingText

/-- Whether a character has a shape. -/
def isPrintable (c : Char) : Bool := isIn printableRanges c.toNat

/-- Whether a character is a mark that extends the character before it. -/
def isExtending (c : Char) : Bool := isIn extendingRanges c.toNat

end DocAudit.Unicode
