/-!
# Scripts

The code points of each script, by the script's names.
-/

namespace DocAudit.Unicode

/-- Names and code points of the scripts. -/
def scriptTable : List (String × List String) :=
  [("adlam adlm",
    ["HDEuCxejeb"]),
   ("ahom",
    ["EBRcBacoew"]),
   ("anatolianhieroglyphs hluw",
    ["ESSeWk"]),
   ("arabic arab",
    ["CHcebfbnbcbBfbjlzbEdbBhDcBvJgBebbfCwbBcDNTwEkqNycDbcCbhaBgpEiebFeFVnBeCpcCddDGLsdbBabbbaca",
     "bjbdbabagaeabababcbbbacabababababbbacdbgbdbdbabjbqfcbebqCab"]),
   ("armenian armn",
    ["BZdBlcBxccDOZje"]),
   ("avestan avst",
    ["DXCyCbdg"]),
   ("balinese bali",
    ["KFwCybBx"]),
   ("bamum bamu",
    ["CLCqDjCVCqVw"]),
   ("bassavah bass",
    ["FHKiBdcf"]),
   ("batak batk",
    ["KNgBzid"]),
   ("bengali beng",
    ["DPodbhcbcvbgbaddcicbcdiaebbecy"]),
   ("bhaiksuki bhks",
    ["EDOiibBsbnkBc"]),
   ("bopomofo bopo",
    ["BCsbRLxBqEiBf"]),
   ("brahmi brah",
    ["DZAeCzeBjja"]),
   ("braille brai",
    ["PDwJv"]),
   ("buginese bugi",
    ["JWaBbcb"]),
   ("buhid buhd",
    ["IUyt"]),
   ("canadianaboriginal cans",
    ["HOyYpVoCrDTPqp"]),
   ("carian cari",
    ["DTYmBw"]),
   ("caucasianalbanian aghb",
    ["DUXsBzla"]),
   ("chakma cakm",
    ["DZKaCabr"]),
   ("cham",
    ["CMJwCcjncjcd"]),
   ("cherokee cher",
    ["HLgDhcfCFJeDb"]),
   ("chorasmian chrs",
    ["DYXcBb"]),
   ("common zyyy",
    ["aCmBafBaBubobexaBfaRhBmfectEmajagabaYnagaoadaBgaGaaTwaEzbBVtaPpdLeaCGlcCtbHvbbaBVhanahdbfb",
     "ccaBDtlcDibkdkborBgClBlbccfbBabqBpceZpwkvBJrJwYdcBfbEaTsDpPmubabyphedDnbdaDmbFrpBgBljaBwCl",
     "BfDcBvaDkGlJToClBHSiBhDycGjjJkaGeaPfaobBEZqbIajwBibsbdFrabBfBafBakkaBtbCmgbgkeJyceBsdiDcmB",
     "zBsIuBaCSHwdFVgJpgQtGaElCiJlkBmcCjdqibhBdeCiIftmtmDijyFfDgbCsbbcacbcdblbabgbCmbdchbgbBbbdb",
     "ebadgbNbcLfcBxHThCpCyCiBBeBreDvmocobobBkkGrCezbbnBreihbofFyBLveqdmdEoeDqgleapleCdijgBniBdc",
     "lebCkNbmncmdjfCdhockgihFqbDxBSUXbaBeDr"]),
   ("coptic copt qaac",
    ["BMgnPJkElfg"]),
   ("cuneiform xsux",
    ["EFBsBJlDyEgbelHn"]),
   ("cypriot cprt",
    ["DVZkfcabBrbbdaca"]),
   ("cyprominoan cpmn",
    ["EKYyDu"]),
   ("cyrillic cyrl",
    ["BNkFccGmIVokGeaCyaGFnBfBTOaDrBHEcbDHPgCjBha"]),
   ("deseret dsrt",
    ["DUMaDb"]),
   ("devanagari deva",
    ["DKqDceoczCIJgBfBREmj"]),
   ("divesakuru diak",
    ["ECKugcachbbbBdbbcljj"]),
   ("dogra dogr",
    ["ECAyCh"]),
   ("duployan dupl",
    ["GMDsEcfmdihjcd"]),
   ("egyptianhieroglyphs egyp",
    ["ELDgBQrkFXq"]),
   ("elbasan elba",
    ["DUVwBn"]),
   ("elymaic elym",
    ["DYYyw"]),
   ("ethiopic ethi",
    ["GVgCubdcgbabdcBobdcBgbdcgbabdcobCebdcCocBfdzJVawjgbgbgbgbgbgbgbgBVKcfcfcfjgbgEPYfgbdbbbo"]),
   ("garay gara",
    ["DXZcBldBcib"]),
   ("georgian geor",
    ["GHsBlbafacBqbdEJwBqccGEaBlbafa"]),
   ("glagolitic glag",
    ["QRgDrGIZggbqcgbbbe"]),
   ("gothic goth",
    ["DUEaBa"]),
   ("grantha gran",
    ["EADsdbhcbcvbgbbbecicbcccagafgcgde"]),
   ("greek grek",
    ["BHwdbccdbaeababcbabtbCkopJNqeByeeeDgaMivcfcBlcfchbabababBecCabobncfbsccbiLjaCAJeaBGNiDaraD",
     "AXrCr"]),
   ("gujarati gujr",
    ["DZlcbibcbvbgbbbecjbcbccapdclhg"]),
   ("gunjalagondi gong",
    ["EEBwfbbbBkbbbfhj"]),
   ("gurmukhi guru",
    ["DUncbfebcvbgbbbbbbcabeebccdahdbahq"]),
   ("gurungkhema gukh",
    ["FDRsCf"]),
   ("han hani",
    ["RPwzbDkmIfBvabaziodBLcJTnCmBFBjBHSiObcEbBSIibmbCCOkCLFbBgGDtgIncINpoLBkpXxDQwUvCFyHHyfGFf"]),
   ("hangul hang",
    ["GLkJvLLebJxDpEjBeCnBeBTAnBcYtQNrmweBwPAiBedfcfcfcc"]),
   ("hanifirohingya rohg",
    ["DXWqBnij"]),
   ("hanunoo hano",
    ["ITsu"]),
   ("hatran hatr",
    ["DWIasbbfe"]),
   ("hebrew hebr",
    ["CCvCciBaefDOVwzbebabbbbbj"]),
   ("hiragana hira",
    ["SHdDhgcFPEvLasaBdcYMva"]),
   ("imperialaramaic armi",
    ["DWBwvbi"]),
   ("inherited qaai zinh",
    ["BDoEhKrbRkkBaaBCidGOxBeTtcbmbgeagadbHqClUebHmBgFTxdEdbCZUjpqnBLnaIsaGFaaCTCuBtcwUycrhcgBed",
     "BTLHiJf"]),
   ("inscriptionalpahlavi phli",
    ["DXGqsfh"]),
   ("inscriptionalparthian prti",
    ["DXFkvch"]),
   ("javanese java",
    ["CMEyCzcjeb"]),
   ("kaithi kthi",
    ["DZFcCoka"]),
   ("kannada knda",
    ["ETcmbcbwbjbecibcbdhbgbbdcjbc"]),
   ("katakana kana",
    ["SKvDlccJgpIaBubDjCZHejbBsCOUcdbgbbbaLbcByaod"]),
   ("kawi",
    ["EERwqbBodBc"]),
   ("kayahli kali",
    ["CMAaBtba"]),
   ("kharoshthi khar",
    ["DWTcdbbfhbcbBcccejhi"]),
   ("khitansmallscript kits",
    ["FJIiaKGxSbBpa"]),
   ("khmer khmr",
    ["IXkDpcjgjSsBf"]),
   ("khojki khoj",
    ["DZTwrbBu"]),
   ("khudawadi sind",
    ["EAAqCgfj"]),
   ("kiratrai krai",
    ["FIIiCf"]),
   ("lao laoo",
    ["FMvbbabebxbabwcebabgbjcd"]),
   ("latin latn",
    ["CnzgzBvapafwbBebRgBneJXbBlgBwfdfmbCrCnJvOfanaqmFlbgaBbarBoECtBfBULmDxdCocbbabhvnBFkBqbibdB",
     "EDqgBOkzgzDCffbBpbiDDNpBegf"]),
   ("lepcha lepc",
    ["KPsCddodc"]),
   ("limbu limb",
    ["JMeBebleleadl"]),
   ("lineara lina",
    ["DVFsLyjvkh"]),
   ("linearb linb",
    ["DSYqlbzbsbbbocnBiEs"]),
   ("lisu",
    ["CKKuBvBUMaa"]),
   ("lycian lyci",
    ["DTXgBc"]),
   ("lydian lydi",
    ["DWKmzfa"]),
   ("mahajani mahj",
    ["DZNcBm"]),
   ("makasar maka",
    ["EEQqy"]),
   ("malayalam mlym",
    ["EYambcbBybcbfepcz"]),
   ("mandaic mand",
    ["DDgBbca"]),
   ("manichaean mani",
    ["DXAmBmel"]),
   ("marchen marc",
    ["EDSqBfcvbn"]),
   ("masaramgondi gonm",
    ["EDYegbbbBrdabbbiij"]),
   ("medefaidrin medf",
    ["FISeDm"]),
   ("meeteimayek mtei",
    ["CMSmwHtBtcj"]),
   ("mendekikakui mend",
    ["HCUyHocp"]),
   ("meroiticcursive merc",
    ["DWPkxetcBt"]),
   ("meroitichieroglyphs mero",
    ["DWOeBf"]),
   ("miao plrd",
    ["FIZoCweCehq"]),
   ("modi",
    ["EBHgCqlj"]),
   ("mongolian mong",
    ["JCibcabtgDkhBqDSCbm"]),
   ("mro mroo",
    ["FHEuBebjeb"]),
   ("multani mult",
    ["DZYugbabdbobk"]),
   ("myanmar mymr",
    ["GBoGdCGAyBeDtBfBPAmt"]),
   ("nabataean nbat",
    ["DWEiBeii"]),
   ("nagmundari nagm",
    ["HBPoBp"]),
   ("nandinagari nand",
    ["ECQyhcBtck"]),
   ("newtailue talu",
    ["JRcBrezgkdb"]),
   ("newa",
    ["EANoDnbe"]),
   ("nko nkoo",
    ["CYiCgcc"]),
   ("nushu nshu",
    ["FJIfaYVmPf"]),
   ("nyiakengpuachuehmong hmnp",
    ["HAEaBsdncjeb"]),
   ("ogham ogam",
    ["INoBc"]),
   ("olchiki olck",
    ["KSuBv"]),
   ("olonal onao",
    ["HBZkBqea"]),
   ("oldhungarian hung",
    ["DXRsBynByhf"]),
   ("olditalic ital",
    ["DUCeBjjc"]),
   ("oldnortharabian narb",
    ["DWYaBf"]),
   ("oldpermic perm",
    ["DUFgBq"]),
   ("oldpersian xpeo",
    ["DUIiBjen"]),
   ("oldsogdian sogo",
    ["DYQiBn"]),
   ("oldsoutharabian sarb",
    ["DWWuBf"]),
   ("oldturkic orkh",
    ["DXMuCu"]),
   ("olduyghur ougr",
    ["DYUqz"]),
   ("oriya orya",
    ["EEjcbhcbcvbgbbbecicbcchcebbecr"]),
   ("osage osge",
    ["DUSuBjeBj"]),
   ("osmanya osma",
    ["DUQyBdcj"]),
   ("pahawhhmong hmng",
    ["FHMeCrkjbgbufs"]),
   ("palmyrene palm",
    ["DWDcBf"]),
   ("paucinhau pauc",
    ["EDCaCe"]),
   ("phagspa phag",
    ["CLSqCd"]),
   ("phoenician phnx",
    ["DWJgBbda"]),
   ("psalterpahlavi phlp",
    ["DXHwrhdmg"]),
   ("rejang rjng",
    ["CMBwBjla"]),
   ("runic runr",
    ["IOuCwdk"]),
   ("samaritan samr",
    ["DAuBtco"]),
   ("saurashtra saur",
    ["CLVcCril"]),
   ("sharada shrd",
    ["DZOyDr"]),
   ("shavian shaw",
    ["DUPcBv"]),
   ("siddham sidd",
    ["EBCiCbcBl"]),
   ("signwriting sgnw",
    ["GWTkZbpebo"]),
   ("sinhala sinh",
    ["FCzcbrdxbibacgdaefbabhgjccDULgt"]),
   ("sogdian sogd",
    ["DYSeBp"]),
   ("sorasompeng sora",
    ["DZIeyhj"]),
   ("soyombo soyo",
    ["ECXsDe"]),
   ("sundanese sund",
    ["KKuClJwh"]),
   ("sunuwar sunu",
    ["EDLwBhoj"]),
   ("sylotinagri sylo",
    ["CLQeBs"]),
   ("syriac syrc",
    ["CQynbChccKmk"]),
   ("tagalog tglg",
    ["ISmvja"]),
   ("tagbanwa tagb",
    ["IWembcbb"]),
   ("taile tale",
    ["JPgBdce"]),
   ("taitham lana",
    ["JXgCkbBcckgjgn"]),
   ("taiviet tavt",
    ["CMOuCoye"]),
   ("takri takr",
    ["EBMeCfgj"]),
   ("tamil taml",
    ["EJibbfdcbddbbabbdbdcdleedcbdcagaouEALhBxna"]),
   ("tangsa tnsa",
    ["FHGqDabj"]),
   ("tangut tang",
    ["FJIeaBfJBziBDnTsi"]),
   ("telugu telu",
    ["EOembcbwbpcibcbdhbbccacdcjhi"]),
   ("thaana thaa",
    ["CVwBx"]),
   ("thai",
    ["FHxCffBb"]),
   ("tibetan tibt",
    ["FRsCtbBjeBmbBjbobgeb"]),
   ("tifinagh tfng",
    ["RCyCdhboa"]),
   ("tirhuta tirh",
    ["EASmCtij"]),
   ("todhri todr",
    ["DVDgBz"]),
   ("toto",
    ["HATkBe"]),
   ("tulutigalari tutg",
    ["EAIqjbacabBlbjbacabdbjbbib"]),
   ("ugaritic ugar",
    ["DUHcBdba"]),
   ("vai vaii",
    ["CKMqLn"]),
   ("vithkuqi vith",
    ["DVAekbobgbbbkbobgbb"]),
   ("wancho wcho",
    ["HAVgCffa"]),
   ("warangciti wara",
    ["ECHcDema"]),
   ("yezidi yezi",
    ["DYLkBpbccb"]),
   ("yi yiii",
    ["CIPkBSudCc"]),
   ("zanabazarsquare zanb",
    ["ECUqCt"])]

end DocAudit.Unicode
