/-!
# General categories

The code points of each general category and of each group of categories, by the names that are
known for it.
-/

namespace DocAudit.Unicode

/-- Names and code points of the general categories. -/
def categoryTable : List (String × List String) :=
  [("casedletter lc",
    ["CnzgzCgakwbBebHmbdeHzbBaHkdcbdcbagabcbabtbDebFiiGjbBljBoEFfBlbafacBqccZwDhcfDFukfBqccCmBrC",
     "lmbBhDxKrcfcBlcfchbabababBecCabgbadcbgddcfemfcbgKbaeacjbadegabababdbfeacdfeeaCabDZfEtcDygd",
     "dbmBlbafaBTWcBtsBbFeCzbwddbCjcbbabhybdaBFpBqfihDbBEAigmeBNtzgzBTtDbDsBjeBjEmkbobgbbbkbobgb",
     "bCOpBynByDpvkvEFiClBGIqClBMLkDgbCsbbcacbcdblbabgbCmbdchbgbBbbdbebadgbNbcybybBebybBebybBeby",
     "bBebybhCSyjbtgfDSvCp"]),
   ("closepunctuation pe",
    ["BpaBzaBfaFPdabaCUoaDRdaCdapaYkabaBeaBPuababababababaDcaBgababababaPoababababababababababaC",
     "mabaBhaBOvabababaBsabababaQmababababadabababacbCZRqaIjaBdabababababababadarababaGoaBzaBfac",
     "aca"]),
   ("connectorpunctuation pc",
    ["DraMBvbtaDGAobycJfa"]),
   ("control cc cntrl",
    ["aBfDrBg"]),
   ("currencysymbol sc",
    ["BkaEvdBWjaEtaTebTebhaJlaKdaWjaDQpaDIiBgBZHvaBGMlaEeaFyaIlbdbMCsdCVXeaDRka"]),
   ("dashpunctuation pd",
    ["BtaCAuaBzaFKjaBNpaDBdfFHxacaBfbeaBcaReataEhaCZWabBlakaGnaFLoaMga"]),
   ("decimalnumber digit nd",
    ["BwjCIojFejHqjPwjEojEojEojEojEojEojEojEojEojDsjEojCsjKsjCsjCTqjBmjLojEyjGkjgjHajDijFejgjCAE",
     "ojBAcjBmjHqjwjDijPqjBFMcjCCkjDFyjgjBEqjEyjCijFojKsjNejEojOkjDyjgtCyjQgjDyjZmjDijJmjCsjQgjY",
     "YgjDMcjDijFejUojBKDyjECqBxDNcjQgjTijJnjBGvjHBaj"]),
   ("enclosingmark me",
    ["BSqbIKqaCIgdbcBYOxc"]),
   ("finalpunctuation pf",
    ["HfaLWvadaBcaFFsabaeacapada"]),
   ("format cf",
    ["GraCAkfwaHkaBxaOubDcaFTjaDAqeBaeBxebjDGHjaJpcGIzapaNKkpBZQudHWxhBTKZmaBeDr"]),
   ("initialpunctuation pi",
    ["GpaLXkacbcazaFFsabaeacapada"]),
   ("letter l",
    ["CnzgzBvakaeafwbBebRpeloehabaEzebbcdbagabcbabtbDebFiiGjbBlcagBoCtBaedBtBqBjbbDubapbhbkccaqa",
     "bBdBdDklayBgjbeafveajadaxyhkfxbfrBpCgCbdasahjppehcbcvbgbadddaqanbbcobkaifebcvbgbbbbbbBfdba",
     "tcqibcbvbgbbbedasapbxalhcbcvbgbbbedaBebbcparabfdcbddbbabbdbdcdlwaCahbcbwbpdaBaccacbBeaehbc",
     "bwbjbedaBfbbbpbribcbBocaqafcicyffrdxbibacgCgBvbbmgCgbbabebxbabjbbjacebavdBgaClhbBjBbeElBqu",
     "aqfeddadbhcemmarBlbafacBqbMubdcgbabdcBobdcBgbdcgbabdcobCebdcCoBlpqDhcfdXvcqbzfCwghhrnsorom",
     "bcpBzBjaeaCpDkhecBhbafCrkBeBxBdcelBrezCcwjCaDeaDpBurhCcBdnbkBrBaBjBpckBjckfBqccBpdbfbbdafH",
     "jCmKrcfcBlcfchbabababBecCabgbadcbgddcfemfcbgEmanaqmDxaeacjbadegabababdbkcdfeeaCabDZfIugddb",
     "mBlbafacCdhaqwjgbgbgbgbgbgbgbgDcaSbbBqefbeDhgcbDlbdfBqbDprBfBwpTsJTnCmBGUeCpBtcKidpkbuBuqB",
     "ecCrBxicDycCocbbabhvpbcbdbwBdBzoBxCkfdabblBbkwzBchBuBcaqebjkebBoxcbhuwdadBxbadbcecabaycckh",
     "cmfcfcfjgbgbBqbngEkBdQNrmweBwMNcObcEbBmgmefabjbmbebabbbbbEdBhNysClcCbBolEmebFeBkzgzlDkdfcf",
     "cfccBjlbzbsbbbocnBiEsOzBcdBwBvBfntbhgBlkBdcBjehBwGbsBjeBjeBniBzmkbobgbbbkbobgbbdBzmLyjvkhy",
     "fbBpbiCrfcabBrbbdacwkwjBeCnsbbkvkzCsCdgbCmapdbcbBcBqBcdBcBjhbBbBbCbkvksnrEgCuCdBynBynBjBmB",
     "bjwJqBpgbqcChBckaivBqrBuuBbwmCaCfbcanBsBgyBaBjBdacaiBidamBvodvabaBjrbytbClgbabdbobjhBuBmhc",
     "bcvbgbbbedasameBejbacabBlbazabaBsCasducBeBvubbaHcBuBpdBkBvuaChBqnaCtBaBlgHdBrEmClBfhcachbb",
     "bxpabaDqhcBmqabaBcakBnhavalBttasCuHrBgBfibBkraBxBdEigbbbBlvazfbbbBfoaMpspabmbBhEuaDbBJlIwH",
     "nDXkDspBPfrfzFXqfWkKDdBdCPuVwhBerDarBdsBvqdBfufsQqBsIdClEyCwfaComCmbbaBcJBziBVpBpjNFrdbgbb",
     "bLepaBdccaodiPfDKuEcfmdihjIWkDgbCsbbcacbcdblbabgbCmbdchbgbBbbdbebadgbNbcybybBebybBebybBeby",
     "bBebybhCSyBegfKbCjFqBskgqaMjBdsBrSqBbIuBdcaTbgbdbbbobHoChCphaBUidbBabbbacabjbdbabagaeababa",
     "bcbbbacabababababbbacdbgbdbdbabjbqfcbebqGOaCLFbBgGDtgIncINpoLBkpXxDQwUvCFyHHyfGFf"]),
   ("letternumber nl",
    ["IRucDYtBicdFMsaziocBSYljBIFgCaRsaiaFeeMEsEg"]),
   ("lineseparator zl",
    ["MEqa"]),
   ("lowercaseletter ll",
    ["DtzCgaBpxbhbabababababababababababababababababababababababababababbbabababababababbbababab",
     "abababababababababababababababababababacababccabacadbeacadccacababacabbbacadabacbccgacacab",
     "abababababababbbababababababababbcabadabababababababababababababababababababababababababab",
     "abababgcacbbaeababababCqbBaHlabadadcsaBbBibbdcbabababababababababababebacacbBzBvbababababa",
     "babababababababababababajababababababababababababababababababababababababababacabababababa",
     "bbbabababababababababababababababababababababababababababababababababababababababababababa",
     "babababaBwBoEHbBqccBDgfDFuibaEnBrClmbBhDyababababababababababababababababababababababababa",
     "bababababababababababababababababababababababababababababababababababababababababababababa",
     "bababababibabababababababababababababababababababababababababababababababababababababababa",
     "bababababababababiifkhihifkhihinchihihiebbgadcbbidcbihkcbbKoadbdaBbaeaeacbideaCbaEBbBvbadb",
     "bababaeabbbffababababababababababababababababababababababababababababababababababababababa",
     "bababababababababababbhabaeamBlbafaBTWdababababababababababababababababababababababatababa",
     "bababababababababababaFfababababababcbabababababababababababababababababababababababababab",
     "abababababhbabacababababaeabacabcbabababababababababafafabababababababaeabacadabababababaB",
     "aadaBFpBqfihDbBEAigmeBOzzBVhBnFgBjFzkbobgbbCRbByEvvEGoBfBGJwBfBMMkzBagbrBazBadbabgbkBazBaz",
     "BazBazBazBazBazBazBaBbBcybfBaybfBaybfBaybfBaybfbaCSyjbtgfDUdBh"]),
   ("mark combiningmark m",
    ["BDoEhKpgKdBsbabbbbbaCukBwuqaDxgcfcbbdBjaBeBaDnkCgijaydbibcbeBrcChiBqxbBgCccbrbgkbBdcCeabgc",
     "bccjakbBaaccCeabeebccdaBebdalcCeabhbcbcubwfbcCeabgcbcchckbBeaChedcbdjaBoeCdabgbcbdhblbBdcC",
     "eabgbcbdhblbpamdCdbbgbcbdjakbBdcCsaefbabhsbCjacgmhDuacilgCvbBbababaebBxtbbfkbBjjaDwtxdecbc",
     "cgddnlbakdBBbcBKkdBccBdbBebCmBfjaBtcbaEnbBiaEolelIleCfjbBccaBwBeBxeBvqBmimcBemCenBwtFwcbue",
     "agaccHqClBBsBgEOccFlaDsBfVifEbbBSQedbjBgbDcbKmadaeaxeeaDfbByrBarnaBmhzmBsdBvnBkaCpnmaibBtc",
     "ByabccbfbbaBpefbJchbbBDZsaBCjpqpBLlaIsaFteCMgcbbfdBoceaGjbWbdCneMfbDbdCskBxdEscCboBpacbkdB",
     "tkhaCjcBknqbBsamcBwnidbbDolgacaGblvdCdbbgcbccjakbcgdeCpibacabdbebaobDerxaDdtJbgciBbbDeqEcm",
     "DxoJwoJlfbbcdbabbFlgcgdaBcjBogbdiajkBupPphbhDevbnEsfdabbbgbaCoebbbeNjdjbbaBwgdexaHXtagoQYy",
     "rDSaeChgBOiabCchdDdalbBDAxbGYzBtcwUwedfihcgBedFscCYdCceBxiaoaweboCAigbqcgbbbeDwaGegOlaCjdT",
     "odJubBCigEfgBTCIvJf"]),
   ("mathsymbol sm",
    ["BraqcCjabaBtaeaBlaBfaBDmaUhcJYhanaBncncFjaBnegaCqefbeacacahaBfbcabaBfKhBgbDmaBeyBofSbajaCc",
     "hEhaMyecBekpJwFawCkeBfcJxBwucfDASqaBFsabcGiaqcCjabaFbagdFEfbCYEzazaBfazaBfazaBfazaBfazaIUe",
     "b"]),
   ("modifierletter lm",
    ["BAmreloehabaFdafaSkaIwaGibKjbeaBfajadaGeaGlaBVoaExaVtaCPmaEdaXnaRwfGsCknaBiBkBAnanaqmEMxbJ",
     "haHjaSbaBrefaDtbDpcBQBuaBWcfKkaEkaBcbEriDcaxaEbcdbSbawaFhaEeavbDzdjaBFViaBtbCZofbBpbiCCxaB",
     "gaBJNsdTocBobVemCmbbaYGqdbgbbSGnCjHtgBKfaBRba"]),
   ("modifiersymbol sk",
    ["DqabaCtagaeadaUbdmnfgbabqEnaobBXiaIUmabclcncncnbGHobBSVrwjbDzbBLoaobBEKkqBIhabaGgaDOLje"]),
   ("nonspacingmark mn",
    ["BDoEhKpeKfBsbabbbbbaCukBwuqaDxgcfcbbdBjaBeBaDnkCgijaydbibcbeBrcChiBqxbBfCdabaeheadgkbBdaCg",
     "aediaubBaacbCfaebebccdaBebdalbCfaeebbeaubwfbaCgacabdiahblbBeaCjamaByadaCdabcfcbdhblbBdaCga",
     "cagafbubBcbCfbediaubBdaCuahcbaDmacgmhDuacilgCvbBbababaCdnbebbfkbBjjaDydbfbbcbzbecqdnacbgap",
     "aBBbcBKkcBdbBebBebCmbbgiackjaBtcbaEnbBiaEocebjagcIlbcaCgabgbabachgjcaBwnbpBxdBwabebafaBoim",
     "bBgdcbbcCeabbdabcCghcbFwcbmbgeagadbHqClBBsmeadlEOccFlaDsBfVidEdbBSQeaejBgbDcbKmadaeazbfaFv",
     "bBarnaBmhzkBucBwacdcbBnaCpfcbcbmaiaBvaBzabccbfbbaBqbiaJeacaeaBDZsaBCjpqpBLlaIsaFteCMgcbbfd",
     "BoceaGjbWbdCneMfbDbdCskBxdEtaCcoBpacbkcBxdcbhaCjcBkebhCkambCaikdcaDrccabbgacaGbadhvbCfbdaB",
     "lgdeCsfnababaobDhhccbaxaDgfbaebbbJedgbbbBbbDhhcabbEcabacfbaDxabacdbeJzibbJwbbaeaFodcbeaBgj",
     "BofcdiajfccBumbbPqgbfbaDevcgbbbbEsfdabbbgbaCubdabaNjblbCaefabaxaHXtagoQYyldcDSaeChgBOiaCld",
     "DdaBDBkbGYzBtcwUycrhcgBedFscCYdCceBxiaoaweboCAigbqcgbbbeDwaGegOlaCjdTodJubBCigEfgBTCIvJf"]),
   ("number n",
    ["BwjEqbfaccCDljFejHqjPwjEojefEejEojEojcfEgmEljigDzjEaghsEfjDsjEojCstKijCsjBBrtBHxcJfjgjwjLo",
     "jEykGjjgjHajDijFejgjBOgadfgjHqByceBByChDavYgBdCBhaBDxaziocNfdFijBehboBgjBnoBRSajHgjMifFyjB",
     "mjHqjwjDijPqjBFMcjSzBsmCerbNdBaBkdBdaiaFeeHujBKghzgBniCxewfGebcpcBtCmiCabBecCxeEahyhBpgMsf",
     "BwjgjKsBeGcjBqdEigFeBdEyjCijFojhtJrjNejEojOkjDyjgtCylQesDpjZmjDiBcItjCsjQgjDyuBPbEgXAfjDMc",
     "jDijFejbgUgjKcwBJSzjCEwtmtEeyBQrBxDNcjQgjTijJnjBBoiEyjBElCgbcbdCyBsboBLamEDfj"]),
   ("openpunctuation ps",
    ["BoaByaBfaFPeabaCUoaDPmadaBmaCdapaYkabaBeaBPuababababababaDcaBgababababaPoababababababababa",
     "babaCmabaBhaBOvabababazasabababaQmababababadabababacaCZRtaIhaBdabababababababadarababaGoaB",
     "yaBfadaca"]),
   ("other c",
    ["aBfDrBgnaBBmbgdhabauaPhaBmbBybdaCdhBbdgqwaHkaBwbChbDxnChbBxbpaBcbbaleBfhCxaGfaibcbwahabceb",
     "jbcbehbdcafbzbdagdcbwahacacacbbafdcbdcbgeabgrjdajadawahacafbkadadbboebmghadaibcbwahacafbjb",
     "cbdgddcafbsjcagcdaeccabaccccdcmdfcdaebbfbnvenadaxaqbjadaegcadbbbebkgwadaxakafbjadaegcfcaeb",
     "kadlnadaBzadagdqbBaadascyajabbhcbdgabaifkbdlCgdBdBkcabafayabaxbfabahakbeBfCuaBkdBnaBkapanB",
     "kHqabebbOnaebhabaebBpaebBhaebhabaebpaCfaebCpbBgcBafDibgbZtcDlgwiyiulnadaclDqbkfkfoalfDlgBr",
     "eCsjBfamdmdbcBqbfkBsdBaflcCkbCnaBdblfkfobBfBwCzaGkhCicpcCkeBrblhBreUobgbBmbgbiabababaBfbCb",
     "apaobgatbdajaleBaeBxpcbBbancBhoBhoFkdZqvluCRsbBgaNleBtabebbCegcnyihahahahahahahahaEwBhBaaD",
     "llIgzDcaDibDzeBraDqaDiiBwaBRIrcCdiNktHchHybcabaiuChckfCehCshmfEmkBecDaaldBhaCdiobkbDzxBcjg",
     "bgbgihahaCidEwbkfQNslxdBxMNbOcbEcBlhlfeBaafabacacaEvpRdbCcgbBfBqfBzataedfaFfdHicgbgbgbdcha",
     "hmcbmaBaatacapboBhEteddBtcDkancbBuBuEzBdcBxoBcdBkiBeeBreBeaBldoBpGcbkfBkdBkdBohCakmapahaca",
     "lapahaccCalLziwjixgaBqajCqgbbaBsaccbbxaCuhjBvtaceBhcBbebClCedubByaceiadaBdbddkgjgCmBfBndmi",
     "CccBdbBbeBagelhDbCvCcBzmBzgBuhkfBmcBdhcHzBfaBqadbcpdCcBshBqvBaBlBctxiDadBkiCkafmzgkfCbashB",
     "niDsauksaBvCjhabaeapalfChekfeaibcbwahacafakbcbdbbfbehbhcfkkabbbaBmakabbbaeakachcBcDoafBdCu",
     "hkGjCcbBmBhCrkkfnsCgfkfuBbBbbpdxHcCiDvDflibbbiacaBeacbmikCribBublBaCuhDfmCvgkGzBinkfjaBtao",
     "jBdcBgbwaoCuhacaBscbacajhkfgacaBlacaggkLxzgraBpcBdDgboBymBJnDxEhafkHoDXjDvmBPgpwjFXreWlKDc",
     "CgCOrVxgBfakdDdakfBebgjCsjkahavetQpCgHpDnDwCxdCfgrClfkcnJCahBVqBokNFqeahacaLfobBcdbbnehPgD",
     "KtEdencjgkbeFVjJqfQuCxBubxiEmChJmjBnbCwhEiuCsErululDjizFeDhaCtacbbbcbeamabahaCnaebiahaBcae",
     "afabchaNcbLgbBBaofapBQlBffgIeharbhacafeCkBgbEhBtcobkdcMhBfqCgebRvBqIfBrdbSlhaeacapaHpbqBoC",
     "ydkdcBEeCqCxCjHleaBbacabbbakaeababfbdbababadacabbbababababacabbeahaeaeabakaredafarBzcKjBsd",
     "DwlpbpapaBljGsCdBdmBsdjgcngFxBLwdrcncEpdDrfmdbomdCehkfBohBebmdcCjNclobnckeCegpblfjgFraDyBN",
     "pCLFcBfGDufIobINqnLBloXyDQvUwCFxHHzeGFgBONHfJgLECt"]),
   ("otherletter lo",
    ["GoapaJwaedIaaBFvBaedBtBfbjBjbbDubaybkccaqabBdBdDklayBgvvBqyhkfxbfrBoChCbdasahjqoehcbcvbgba",
     "dddaqanbbcobkaifebcvbgbbbbbbBfdbatcqibcbvbgbbbedasapbxalhcbcvbgbbbedaBebbcparabfdcbddbbabb",
     "dbdcdlwaCahbcbwbpdaBaccacbBeaehbcbwbjbedaBfbbbpbribcbBocaqafcicyffrdxbibacgCgBvbbmfChbbabe",
     "bxbabjbbjacexdBgaClhbBjBbeElBquaqfeddadbhcemmaEjMqbdcgbabdcBobdcBgbdcgbabdcobCebdcCoBlpEjX",
     "vcqbzfCwghhrnsorombcpBzBoaCpBibCahecBhbafCrkBeBxBdcelBrezCcwjCaGuBurhCcBdnbkBrBaBjBpckBdEj",
     "dbfbbdaBPqdENvCdywjgbgbgbgbgbgbgbgVfaCbaeDhiabDleafBqbDprBfBwpTsJTnCmBFCebBRyCpBniKhepkbCo",
     "aBxCrGnaDzadgbcbdbwBdBzoBxCkfdabblBbkwzBchBuBtecikebBoxcbhupbfdadBxbadbcecabaybdkhaofcfcfj",
     "gbgFpBiBdQNrmweBwMNcObcEbCpabjbmbebabbbbbEdBhNysClcCbBolEmebFeEbjbBscBedfcfcfccBjlbzbsbbbo",
     "cnBiEsOzBcdBwBvBfntbhgBlkBdcBjehEyCzDuBniBzDoBzmLyjvkhFwfcabBrbbdacwkwjBeCnsbbkvkzCsCdgbCm",
     "apdbcbBcBqBcdBcBjhbBbBbCbkvksnrEgCuHbBjBmdbaLsBpgbqcChBckaivBqrBuuBbwmCaCfbcanBsBgyBaBjBda",
     "caiBidamBvodvabaBjrbytbClgbabdbobjhBuBmhcbcvbgbbbedasameBejbacabBlbazabaBsCasducBeBvubbaHc",
     "BuBpdBkBvuaChBqnaCtBaBlgHdBrIdhcachbbbxpabaDqhcBmqabaBcakBnhavalBttasCuHrBgBfibBkraBxBdEig",
     "bbbBlvazfbbbBfoaMpspabmbBhEuaDbBJlIwHnDXkDspBPfrfzFXqfWkKDdBdCPuVwhBerDarBdsBvBzufsQtBnPpC",
     "wfaGtJBziBVpBpjNGhLepaBdccaodiPfDKuEcfmdihjNBcaThBsBhaMjBdsBrSqBaIvBdcaTbgbdbbbobHoBZndbBa",
     "bbbacabjbdbabagaeabababcbbbacabababababbbacdbgbdbdbabjbqfcbebqGOaCLFbBgGDtgIncINpoLBkpXxDQ",
     "wUvCFyHHyfGFf"]),
   ("othernumber no",
    ["GwbfaccDMrfOmfEqcFdgIjgriQrjBPltBRvjSmaCMvadfgjHqpBpaBByChDavYgBdCBhaBTcdFijBehboBgjBnoBSM",
     "ifBHQnBsCndrbNdBaBkdBZghzgBniCxewfGebcpcBtCmiCabBecCxeEahyhBpgMsfNoBeGcjBqdEigFetOptBZxbQo",
     "iBHnsBGtuBCPqgBEswBLYftmtEeyIBuiBJtCgbcbdCyBsboBLam"]),
   ("otherpunctuation po",
    ["BhcbccababbkbdbBbaCqafaobhaBBaaiaRyfBpaCcacacaBsbubbbnabcCwdDyaBrnIzcCcoBfaKbbkaFkaEqaEraP",
     "aamaOdaDmakbGmobaEiaCweebEhfGpaXoiBDtaEucCtbGbcbcBlfbdMbbIibEygbfGebkgBccEudCheCkbCmhlaBGc",
     "bihiicdccdkbabjEUcdbbEiaFnbeccacibbbacbkebjcdbabmccQmcCfaHhaBRYgbKjcDvakaElfOqdDibBocbaBxb",
     "BvaDtmqbEudEwbqbJpaBFCugcawaubcddcbdhcgabbFtcbccababbkbdbBbaBkacbPucZsaBwaPyaBCpaHraBfaKmi",
     "BmaEigCogDldBKqeBsdHhgEfbbdEwdBwbDbdeanabcDkfEdaLmbbbEkekbbaEaaJqwEbcBcmCyaFacJsaKecFzaDoh",
     "DfcbeDpjIhaDreBqbYvbCwmGtaBRseEJcbWDvbFdaCneiaVgcLjdMpaBDBoaLIleEItaBHeb"]),
   ("othersymbol so",
    ["GkacaeabaBLpaKgbExbHyakatbJnaTvaOjaFafbaFcaHzaBpaPbcpabccfuababaFdhbfbbfdHpbBCyjBBvaBBuaGb",
     "BhNpjjiCChbbdbbkabbgfbababaealboabbbaCgbjecdbbbbbgbBecbbabBeKihetcgcDcbBdzBngCtwkDdCzwHabi",
     "bCbiEgbJnBsBrCmJvTsBvvbgBmcBfbEaIvfNtbBuzbDkmIfBapeanbmavbgbMybejBgBljaqBelBdiapBfkBmpMhJT",
     "oClBGUiCcBHhdkbbaWbcBFJapExaBtcSqadaebnbMbiCfqccbmdaBvBsCLubWtaESsaDGnheqBCNidfaBEUwaFVnJf",
     "qQtGaElCiJlkBmcChfcwbhBdeCivCndaHeDiBTxTrCddByhbnbbCOuaEHwaEzaBBtBreDvmocobobBkxGeCeBcnBre",
     "ihbofFyJqfBBzeqdmdEoeDqgleapleCdijgBniBdclebCkNbmncmdjfCdhockgihFqbDn"]),
   ("paragraphseparator zp",
    ["MEra"]),
   ("privateuse co",
    ["DGVoJMdCAHXoDSYncDSYn"]),
   ("punctuation p punct",
    ["BhcbfbdkbdbBacbaBbabaBjafadakbdadaBBaaiaRyfBpbBzabacacaBsbubbbnabcCwdDyaBrnIzcCcoBfaKbbkaF",
     "kaEqaEraPaamaOdaDmakbGmobaBldCtaCweebEhfGpaXoiFvaXxaBsbDacCtbGbcbcBlkMbbIibEygbfGebkgBccEu",
     "dCheCkbCmhlaBFwxitbmblBebobYjdBdbBPtnDbbBfjPnvCldBgbBDjdbbEiaFnBubBfclQdcejclqamaDuaDmaBRY",
     "gbKjcDvakaElfOqdDibBocbaBxbBvaDtmqbEudEwbqbJpaBEUsbIajwBibnbaeabbFtcbfbdkbdbBacbaBbababgPu",
     "cZsaBwaPyaBCpaHraBfaKmiBmaEigCogDldRxaMgaGleBsdHhgEfbbdEwdBwbDbdeanabcDkfEdaLmbbbEkekbbaEa",
     "aJqwEbcBcmCyaFacJsaKecFzaDohDfcbeDpjIhaDreBqbYvbCwmGtaBRseEJcbWDvbFdaCneiaVgcLjdMpaBDBoaLI",
     "leEItaBHeb"]),
   ("separator z",
    ["BgaExaIHjaDPnkBdbfaBvaFXwa"]),
   ("spaceseparator zs",
    ["BgaExaIHjaDPnkBkaBvaFXwa"]),
   ("spacingmark mc",
    ["DKtaCdaccidbbBybCgcgbcbkaBraCgcCoaCgciabbCbbCgabagbcbkaDybbbdcbckaBpcCjdCjbCgabecbbbjbBcao",
     "bCgcfcbckaBqbCxcghsbMsbClaGpbeagacbzbkccgvbcfcakcCLsaBeaEzahhbbNidccebbfIqbCgabajabbifFpaB",
     "wafabebbCjaBeaebcaCiaccbadbBwhibGpavaHHebBTLbbcaDkbBypFmbBvaBwbebccEgbcbyaBtabaEfacbfaJdbb",
     "bbbbaBLXjabaExaBtcebElaybChaBwcjbnaDpcdbbaGocBfbCgbbdcbccjakbDgchacabdbbbaDxcibdaEccgabdca",
     "JdcgdcaEjcibbaEfabbgaDzabbeaKbcjaJnfbbeacabaFmcideaDgaBdbCkaPraoaEcahacaIfeebbaNmbmaBwbibb",
     "aYYycFJgCcEabBKXnbgf"]),
   ("symbol s",
    ["BkagaqcBfabaBbabaBjebbcabdcadaBeaBfaRqdmnfgbabqEnaobEiaFjaKgcEoccacbHyakatbJnahbFgaNxbgbJl",
     "aEwaFahFcaHzaBpaHpaHlcpabccfuababaFdhbfbbfdHpbBCyjBBvaObaNsaGbBhNpjjiBPwabclcncncnbCranaBn",
     "cnctBgClbbdbbkabcffbababaealbeefdbaCgbeOleBccJuwkDdCzwXrBsBwcBekPmwCkeBfcOjcBfbEaIvfNtbBuz",
     "bDkmIfBapeanbmavbgbDnbJjbejBgBljaqBelBdiapBfkBmpMhJToClBGUiCcVxwjbDzbGbdkdWbcIraobBEFdaFgq",
     "OrpExaBsdDuabccaFyagaqcBfabaBbabaEzgbgnbMbiCfqccbmdaBvBsCLubWtaBBhbDRjaDGnBcBCNidfaBEUwaFV",
     "nJfqQtGaElCiJlkBmcChfcwbhBdeCivCndaHeDiBHqazaBfazaBfazaBfazaBfazaCiTrCddByhbnbbCOuaQpaDRga",
     "daEvaRhbKkBreDvmocobobBkxGeCeBcnBreihbofFyBLveqdmdEoeDqgleapleCdijgBniBdclebCkNbmncmdjfCdh",
     "ockgihFqbDn"]),
   ("titlecaseletter lt",
    ["RlacacaBmaLFhhihihmapaBva"]),
   ("unassigned cn",
    ["BIebgdhabauaPhaBmbBybdaCdhBbdgkKkaCibDxnChbBxbpaBcbbaleBfaceJdaibcbwahabcebjbcbehbdcafbzbd",
     "agdcbwahacacacbbafdcbdcbgeabgrjdajadawahacafbkadadbboebmghadaibcbwahacafbjbcbdgddcafbsjcag",
     "cdaeccabaccccdcmdfcdaebbfbnvenadaxaqbjadaegcadbbbebkgwadaxakafbjadaegcfcaebkadlnadaBzadagd",
     "qbBaadascyajabbhcbdgabaifkbdlCgdBdBkcabafayabaxbfabahakbeBfCuaBkdBnaBkapanBkHqabebbOnaebha",
     "baebBpaebBhaebhabaebpaCfaebCpbBgcBafDibgbZtcDlgwiyiulnadaclDqbkfkfBafDlgBreCsjBfamdmdbcBqb",
     "fkBsdBaflcCkbCnaBdblfkfobBfBwCzaGkhCicpcCkeBrblhBreUobgbBmbgbiabababaBfbCbapaobgatbdajaDxa",
     "mbBbancBhoBhoFkdZqvluCRsbBgaNleBtabebbCegcnyihahahahahahahahaEwBhBaaDllIgzDcaDibDzeBraDqaD",
     "iiBwaBRIrcCdiNktHchHybcabaiuChckfCehCshmfEmkBecDaaldBhaCdiobkbDzxBcjgbgbgihahaCidEwbkfQNsl",
     "xdBxdNBabEcBlhlfeBaafabacacaEvpRdbCcgbBfBqfBzataedfaFfbbaHicgbgbgbdchahjfbmaBaatacapboBhEt",
     "eddBtcDkancbBuBuEzBdcBxoBcdBkiBeeBreBeaBldoBpGcbkfBkdBkdBohCakmapahacalapahaccCalLziwjixga",
     "BqajCqgbbaBsaccbbxaCuhjBvtaceBhcBbebClCedubByaceiadaBdbddkgjgCmBfBndmiCccBdbBbeBagelhDbCvC",
     "cBzmBzgBuhkfBmcBdhcHzBfaBqadbcpdCcBshBqvBaBlBctxiDadBkiCqjbbzgkfCbashBniDsauksaBvCjhabaeap",
     "alfChekfeaibcbwahacafakbcbdbbfbehbhcfkkabbbaBmakabbbaeakachcBcDoafBdCuhkGjCcbBmBhCrkkfnsCg",
     "fkfuBbBbbpdxHcCiDvDflibbbiacaBeacbmikCribBublBaCuhDfmCvgkGzBinkfjaBtaojBdcBgbwaoCuhacaBscb",
     "acajhkfgacaBlacaggkLxzgraBpcBdDgboBymBJnDxEhafkHoDXjDvmBQsjFXreWlKDcCgCOrVxgBfakdDdakfBebg",
     "jCsjkahavetQpCgHpDnDwCxdCfgrClfkcnJCahBVqBokNFqeahacaLfobBcdbbnehPgDKtEdencjgkbiFVfJqfQuCx",
     "BubxiEmChJmjBnbHmuCsErululDjizFeDhaCtacbbbcbeamabahaCnaebiahaBcaeafabchaNcbLgbBBaofapBQlBf",
     "fgIeharbhacafeCkBgbEhBtcobkdcMhBfqCgebRvBqIfBrdbSlhaeacapaHpbqBoCydkdcBEeCqCxCjHleaBbacabb",
     "bakaeababfbdbababadacabbbababababacabbeahaeaeabakaredafarBzcKjBsdDwlpbpapaBljGsCdBdmBsdjgc",
     "ngFxBLwdrcncEpdDrfmdbomdCehkfBohBebmdcCjNclobnckeCegpblfjgFraDyBNpCLFcBfGDufIobINqnLBloXyD",
     "QvUwCFxHHzeGFgBOMXkbBdDsExJgDSFnDSYobDSYob"]),
   ("uppercaseletter lu",
    ["CnzDxwbgBhabababababababababababababababababababababababababababacabababababababacabababab",
     "abababababababababababababababababababbbabadbbabbbccdbbbcdbbbbababbbacabbbcbabbdahacacacab",
     "ababababababacababababababababacacabcbabababababababababababababababababababababababababab",
     "ababahbbbcabdbabababaLdabadaiagabcbabbbqbiBjaccdabababababababababababafacabbcByBwabababab",
     "ababababababababababababajabababababababababababababababababababababababababababbbabababab",
     "abacababababababababababababababababababababababababababababababababababababababababababab",
     "ababababacBlEHdBlbafaBBuDhDGlagBqccMiababababababababababababababababababababababababababa",
     "bababababababababababababababababababababababababababababababababababababababababababababa",
     "bababajabababababababababababababababababababababababababababababababababababababababababa",
     "bababababababajhifkhihiflabababaihCudmdmdmeldKcaeadccccadegabababdcdkbfaCjaDZgBvBwabccabab",
     "abdbacaicbabababababababababababababababababababababababababababababababababababababababab",
     "ababababababababaiabaeaBTYjababababababababababababababababababababababatababababababababa",
     "bababababaFfababababababadababababababababababababababababababababababababababababababakab",
     "abbbabababaeabacabadababababababababababebebabababababababdbabbdafabababayaBHAhzBUzBnFgBjG",
     "akbobgbbCQcByGbvEGoBfBGJwBfBMMqzBazBazBaabbcacbcdbhBazBabbdchbgBbbbdbebadgBbzBazBazBazBazB",
     "azBeyBhyBhyBhyBhyBhaGNlBh"])]

end DocAudit.Unicode
