import DocAudit.Unicode.Packed

/-!
# Characters of words

Words are made of alphabetic characters, marks, decimal digits, connecting punctuation and the two
join controls.
-/

namespace DocAudit.Unicode

/-- The packed code points of the characters of words. -/
def wordText : List String :=
  ["BwjhzeabzBvakaeafwbBebRpeloehabarEmbbcdbagabcbabtbDebFibGqbBlcagBoiBsbabbbbbaiBaedBdkfCveD",
   "xbhcjbscaqCgcDwoCbeacacBtsBbekfxbfiCwbEycjbsbhcbcvbgbaddcicbcdiaebbeclkabaccbfebcvbgbbbbbb",
   "cabeebccdahdbahplcbibcbvbgbbbecjbcbccapdcjjgbcbhcbcvbgbbbecicbcchcebbecjbaqbbfdcbddbbabbdb",
   "dcdleedcbdcagaojqmbcbwbpcibcbdhbbccacdcjqdbhbcbwbjbecibcbdhbgbbdcjbcmmbcbBybcbefdhecjkfbcb",
   "rdxbibacgdaefbabhgjcbnCffobjBnbbabebxbabwcebabgbjcdBgaxbgjlababaejbBjetbrbBjjaCfCvgCzcBlba",
   "facBqbMubdcgbabdcBobdcBgbdcgbabdcobCebdcCoccBgpqDhcfdXvcqbzfCwdkhvjvltmmbcbbmDfdaebcjBhcbk",
   "gDkhBqfCrkBeblelkBncelBrezgjBmBbeCkbBcckgjnaiBeBxCydjrimElmCdijdBwckfBqccqcbBmfUncfcBlcfch",
   "babababBecCabgbadcbgddcfemfcbgpbBxbtaBcanaqmBzBgraeacjbadegabababdbkcdfeearBoBFhBzCRuIugim",
   "BlbafacCdhapxjgbgbgbgbgbgbgbgbBfBvaSbczobeceeDhcbccbDlbdfBqbDprBfBwpTsJTnCmBGUeCpBtcKidBbu",
   "BybjbEkBlicDycCocbbabhvCbeatBzmCrkjgxdabBwcBjmBcdCmokgBebCcjncjgwdCuyccpcekfcfcfjgbgbBqbng",
   "EsbbcjgQNrmweBwMNcObcEbBmgmeflbmbebabbbbbEdBhNysClcCbBolepqpdbycBgebFetjhzeabzlDkdfcfcfccB",
   "jlbzbsbbbocnBiEsCrCaFgaFaBcdBwpaBfBfnBdfBqfBdcBjehbeBqGbcjgBjeBjeBniBzmkbobgbbbkbobgbbdBzm",
   "LyjvkhyfbBpbiCrfcabBrbbdacwkwjBeCnsbbkvkzCsCdgbCmdbbfhbcbBccceaBgBcdBcBjhbBdzCbkvksnrEgCuC",
   "dBynBynBnijgBldebwJqBpbbdbqcCdBgkaiBgBfvBquBbwjCsBfpjChhanyhjgCabjediBjcajCqedbmbaBjrbBkgd",
   "CkgbabdbobjhCgfjgdbhcbcvbgbbbebjcbcccagafgcgdeljbacabBlbjbacabdbhnbBdCwfjedBeCrbaijGkCbcix",
   "fBiCmdaljBmCehjgtBcBacoejggHdCgDxCvvhcachbbbBdbbcimjCshcBtchbbBbCkiaiCvdasCuHrBgpjgibBsbip",
   "jyBdcvbnCvgbbbBrdabbbiijgfbbbBkbbbfhjLywjqbBodenkDhaDbBJlDyEgrHnDXkDspBPfqvkFXqfWkKDdCfCOs",
   "VwhBebjgDabjgBdcelCcjdmjjufsQqBsdjHqClEyCweCehqCmbbblboJBziBVpBpjNFrdbgbbbLepaBdccaodiPfDK",
   "uEcfmdihjdbGErjTyBtcwUwedfihcgBedFscRbDgbCsbbcacbcdblbabgbCmbdchbgbBbbdbebadgbNbcybybBebyb",
   "BebybBebybBebybhcBxTsCceBxiaoaweboBQmBegfIfgbqcgbbbefCjBhaEiBsdncjeaMjBerCfScBpIgBqSrgbdbb",
   "bobHolgBpCxejBTudbBabbbacabjbdbabagaeabababcbbbacabababababbbacdbgbdbdbabjbqfcbebqYezgzgzD",
   "YkjBNqCLFbBgGDtgIncINpoLBkpXxDQwUvCFyHHyfGFfBONHgJf"]

def wordRanges : List (Nat × Nat) := unpack wordText

end DocAudit.Unicode
