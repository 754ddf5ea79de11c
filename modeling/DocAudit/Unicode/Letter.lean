import DocAudit.Unicode.Packed

/-!
# Letters and numbers

The property `Alphabetic` and the general categories of numbers, for names.
-/

namespace DocAudit.Unicode

/-- The packed code points of alphabetic characters. -/
def alphabeticText : List String :=
  ["CnzgzBvakaeafwbBebRpeloehabaDiaBdrbbcdbagabcbabtbDebFiiGjbBlcagBoBnnbabbbbbaiBaedBdkfCdbgo",
   "DxbheheckccaqBvnDwyBgjbeafxcstyhkfxbghaiBpkldggCxbpbceonsbhcbcvbgbadddhcbcbbaiaebbembkaecb",
   "febcvbgbbbbbbeeebcbeahdbarflcbibcbvbgbbbedibcbbdapdvdecbhcbcvbgbbbedhcbcbjbebbenaqbbfdcbdd",
   "bbabbdbdcdleedcbcdagaBombcbwbpdhbcbcibbcbbcdBcdbhbcbwbjbedhbcbcibfcbdncmmbcbBochbcbcbafdhe",
   "wfbcbrdxbibacgifbabhsbnCffggaBzbbabebxbabsbccebagaodBgaClhbBjesepbBjCpCcbaceqClkdcBlbafacB",
   "qbMubdcgbabdcBobdcBgbdcgbabdcobCebdcCoBlpqDhcfdXvcqbzfCwdkhtlumtmmbcbbmBzcsoaeaCpDkhBqfCrk",
   "BebleixBdcelBrezCcBbeCkctByaxblcBxBzbobhBzBpcdkBrbkoCcwckBjckfBqccBpdbfbbdafHjtBhlKrcfcBlc",
   "fchbabababBecCabgbadcbgddcfemfcbgEmanaqmDxaeacjbadegabababdbkcdfeearBoBFhBzCRuIugddbmBlbaf",
   "acCdhaqwjgbgbgbgbgbgbgbgbBfBvaSbcziheceeDhgcbDlbdfBqbDprBfBwpTsJTnCmBGUeCpBtcKidpkbuBufhdE",
   "iBnicDycDduubBgyBzmCpbaBsfdabckBgfBinBcdByblpaqpkebCcjnswdCqbabayccpcdlfcfcfjgbgbBqbngEsvQ",
   "NrmweBwMNcObcEbBmgmeflbmbebabbbbbEdBhNysClcCbBolEmebFeBkzgzlDkdfcfcfccBjlbzbsbbbocnBiEsCrC",
   "aKhBcdBwBvBfnBdfBqfBdcBjehbeBqGbsBjeBjeBniBzmkbobgbbbkbobgbbdBzmLyjvkhyfbBpbiCrfcabBrbbdac",
   "wkwjBeCnsbbkvkzgzBmCdgbCmdbbfhbcbBcBqBcdBcBjhbBbBbCbkvksnrEgCuCdBynBynBnBiBbdafwJqBpbbdbqf",
   "BycdBckaivBqrBuuBbwjCrBrekCejanyxByrdiBidajClbdjbkabaBjrbBhcagdCkgbabdbobjhCexdbhcbcvbgbbb",
   "edhcbcbdagafgBcjbacabBlbjbacabdbbdabaBsCnbcbducBeCncbbaHcCbcgzfBiCkbadaChCbcaCtBacnvgHdCeD",
   "zClBfhcachbbbBdbbcbcdDphcBtcfbabbBbBycjrCtfasCuDzhDkBgBfibBsbgbaBxBdcvbnCvgbbbBrdabbbcbacb",
   "yfbbbBkbbbdbaxBrKawjqbBodcEhaDbBJlDyEgrHnDXkDspBPfrfzFXqfWkKDdBuCPdVwhBerDarBdsBvqdBfufsQq",
   "BsIdClBgycyBsCweCehqCmbbamgjKXxBpBfDtEkMWrdbgbbbLepaBdccaodiPfDKuEcfmdihjeaIWfDgbCsbbcacbc",
   "dblbabgbCmbdchbgbBbbdbebadgbNbcybybBebybBebybBebybBebybhCSyBegfIfgbqcgbbbefCjBhaEiBskgqaMj",
   "BdsBrSqBbIuBdcaHzBebvibIqgbdbbbobHoChCpdadaBUidbBabbbacabjbdbabagaeabababcbbbacabababababb",
   "bacdbgbdbdbabjbqfcbebqYezgzgzFMkCLFbBgGMncIObcLBkpXxDQwUvCFyHHyfMOn"]

/-- The packed code points of numbers. -/
def numericText : List String :=
  ["BwjEqbfaccCDljFejHqjPwjEojefEejEojEojcfEgmEljigDzjEaghsEfjDsjEojCstKijCsjBBrtBHxcJfjgjwjLo",
   "jEykGjjgjHajDijFejgjBOgadfgjHqByceBByChDavYgBdCBhaBDxaziocNfdFijBehboBgjBnoBRSajHgjMifFyjB",
   "mjHqjwjDijPqjBFMcjSzBsmCerbNdBaBkdBdaiaFeeHujBKghzgBniCxewfGebcpcBtCmiCabBecCxeEahyhBpgMsf",
   "BwjgjKsBeGcjBqdEigFeBdEyjCijFojhtJrjNejEojOkjDyjgtCylQesDpjZmjDiBcItjCsjCcjNujDyuBPbEgXAfj",
   "DMcjDijFejbgUgjKcwNlcBJFljCEwtmtEeyBQrBxDNcjQgjTijJnjBBoiEyjBElCgbcbdCyBsboBLamEDfj"]

def alphabeticRanges : List (Nat × Nat) := unpack alphabeticText

def numericRanges : List (Nat × Nat) := unpack numericText

def isAlphabetic (c : Char) : Bool := isIn alphabeticRanges c.toNat

def isAlphanumeric (c : Char) : Bool := isAlphabetic c || isIn numericRanges c.toNat

end DocAudit.Unicode
