import ChatGateway.Sample.Run

/-!
# Scripts

Every code point belongs to one script, named by four letters.  `Zyyy` is common to many scripts,
`Zinh` takes the script of what it is put upon, and `Zzzz` is no script.
-/

namespace ChatGateway.Text

/-- The scripts of all code points from the first on, as runs. -/
def scriptLines : List String :=
  ["Zyyy1t Latnq Zyyy6 Latnq Zyyy1b Latn1 Zyyyf Latn1 Zyyy5 Latnn Zyyy1 Latnv Zyyy1 Latnch",
    "Zyyy13 Latn5 Zyyy5 Bopo2 Zyyyk Zinh34 Grek4 Zyyy1 Grek3 Zzzz2 Grek4 Zyyy1 Grek1 Zzzz4 Grek1",
    "Zyyy1 Grek1 Zyyy1 Grek3 Zzzz1 Grek1 Zzzz1 Grekk Zzzz1 Grek1r Copte Grekg Cyrl3p Zinh2 Cyrl4p",
    "Zzzz1 Armn12 Zzzz2 Armn1e Zzzz2 Armn3 Zzzz1 Hebr1j Zzzz8 Hebrr Zzzz4 Hebr6 Zzzzb Arab5 Zyyy1",
    "Arab6 Zyyy1 Arabe Zyyy1 Arab3 Zyyy1 Arabw Zyyy1 Araba Zinhb Arabq Zinh1 Arab30 Zyyy1 Araby",
    "Syrce Zzzz1 Syrc1o Zzzz2 Syrc3 Arab1c Thaa1e Zzzze Nkoo1n Zzzz2 Nkoo3 Samr1a Zzzz2 Samrf",
    "Zzzz1 Mands Zzzz2 Mand1 Zzzz1 Syrcb Zzzz5 Arabv Zzzz1 Arab2 Zzzz6 Arab22 Zyyy1 Arabt Deva29",
    "Zinh4 Devaf Zyyy2 Devaq Beng4 Zzzz1 Beng8 Zzzz2 Beng2 Zzzz2 Bengm Zzzz1 Beng7 Zzzz1 Beng1",
    "Zzzz3 Beng4 Zzzz2 Beng9 Zzzz2 Beng2 Zzzz2 Beng4 Zzzz8 Beng1 Zzzz4 Beng2 Zzzz1 Beng5 Zzzz2",
    "Bengp Zzzz2 Guru3 Zzzz1 Guru6 Zzzz4 Guru2 Zzzz2 Gurum Zzzz1 Guru7 Zzzz1 Guru2 Zzzz1 Guru2",
    "Zzzz1 Guru2 Zzzz2 Guru1 Zzzz1 Guru5 Zzzz4 Guru2 Zzzz2 Guru3 Zzzz3 Guru1 Zzzz7 Guru4 Zzzz1",
    "Guru1 Zzzz7 Guruh Zzzza Gujr3 Zzzz1 Gujr9 Zzzz1 Gujr3 Zzzz1 Gujrm Zzzz1 Gujr7 Zzzz1 Gujr2",
    "Zzzz1 Gujr5 Zzzz2 Gujra Zzzz1 Gujr3 Zzzz1 Gujr3 Zzzz2 Gujr1 Zzzzf Gujr4 Zzzz2 Gujrc Zzzz7",
    "Gujr7 Zzzz1 Orya3 Zzzz1 Orya8 Zzzz2 Orya2 Zzzz2 Oryam Zzzz1 Orya7 Zzzz1 Orya2 Zzzz1 Orya5",
    "Zzzz2 Orya9 Zzzz2 Orya2 Zzzz2 Orya3 Zzzz7 Orya3 Zzzz4 Orya2 Zzzz1 Orya5 Zzzz2 Oryai Zzzza",
    "Taml2 Zzzz1 Taml6 Zzzz3 Taml3 Zzzz1 Taml4 Zzzz3 Taml2 Zzzz1 Taml1 Zzzz1 Taml2 Zzzz3 Taml2",
    "Zzzz3 Taml3 Zzzz3 Tamlc Zzzz4 Taml5 Zzzz3 Taml3 Zzzz1 Taml4 Zzzz2 Taml1 Zzzz6 Taml1 Zzzze",
    "Tamll Zzzz5 Telud Zzzz1 Telu3 Zzzz1 Telun Zzzz1 Telug Zzzz2 Telu9 Zzzz1 Telu3 Zzzz1 Telu4",
    "Zzzz7 Telu2 Zzzz1 Telu3 Zzzz2 Telu1 Zzzz2 Telu4 Zzzz2 Telua Zzzz7 Telu9 Kndad Zzzz1 Knda3",
    "Zzzz1 Kndan Zzzz1 Kndaa Zzzz1 Knda5 Zzzz2 Knda9 Zzzz1 Knda3 Zzzz1 Knda4 Zzzz7 Knda2 Zzzz6",
    "Knda2 Zzzz1 Knda4 Zzzz2 Kndaa Zzzz1 Knda3 Zzzzc Mlymd Zzzz1 Mlym3 Zzzz1 Mlym1f Zzzz1 Mlym3",
    "Zzzz1 Mlym6 Zzzz4 Mlymg Zzzz2 Mlymq Zzzz1 Sinh3 Zzzz1 Sinhi Zzzz3 Sinho Zzzz1 Sinh9 Zzzz1",
    "Sinh1 Zzzz2 Sinh7 Zzzz3 Sinh1 Zzzz4 Sinh6 Zzzz1 Sinh1 Zzzz1 Sinh8 Zzzz6 Sinha Zzzz2 Sinh3",
    "Zzzzc Thai1m Zzzz4 Zyyy1 Thais Zzzz11 Laoo2 Zzzz1 Laoo1 Zzzz1 Laoo5 Zzzz1 Laooo Zzzz1 Laoo1",
    "Zzzz1 Laoon Zzzz2 Laoo5 Zzzz1 Laoo1 Zzzz1 Laoo7 Zzzz1 Laooa Zzzz2 Laoo4 Zzzzw Tibt20 Zzzz1",
    "Tibt10 Zzzz4 Tibt13 Zzzz1 Tibt10 Zzzz1 Tibtf Zzzz1 Tibt7 Zyyy4 Tibt2 Zzzz11 Mymr4g Geor12",
    "Zzzz1 Geor1 Zzzz5 Geor1 Zzzz2 Geor17 Zyyy1 Geor4 Hang74 Ethi21 Zzzz1 Ethi4 Zzzz2 Ethi7 Zzzz1",
    "Ethi1 Zzzz1 Ethi4 Zzzz2 Ethi15 Zzzz1 Ethi4 Zzzz2 Ethix Zzzz1 Ethi4 Zzzz2 Ethi7 Zzzz1 Ethi1",
    "Zzzz1 Ethi4 Zzzz2 Ethif Zzzz1 Ethi1l Zzzz1 Ethi4 Zzzz2 Ethi1v Zzzz2 Ethiw Zzzz3 Ethiq Zzzz6",
    "Cher2e Zzzz2 Cher6 Zzzz2 Canshs Ogamt Zzzz3 Runr23 Zyyy3 Runrb Zzzz7 Tglgm Zzzz9 Tglg1 Hanol",
    "Zyyy2 Zzzz9 Buhdk Zzzzc Tagbd Zzzz1 Tagb3 Zzzz1 Tagb2 Zzzzc Khmr2m Zzzz2 Khmra Zzzz6 Khmra",
    "Zzzz6 Mong2 Zyyy2 Mong1 Zyyy1 Mongk Zzzz6 Mong2h Zzzz7 Mong17 Zzzz5 Cans1y Zzzza Limbv Zzzz1",
    "Limbc Zzzz4 Limbc Zzzz4 Limb1 Zzzz3 Limbc Taleu Zzzz2 Tale5 Zzzzb Talu18 Zzzz4 Taluq Zzzz6",
    "Talub Zzzz3 Talu2 Khmrw Bugis Zzzz2 Bugi2 Lana1r Zzzz1 Lanat Zzzz2 Lanab Zzzz6 Lanaa Zzzz6",
    "Lanae Zzzz2 Zinhv Zzzz1d Bali25 Zzzz3 Bali1b Zzzz1 Sund1s Batk1g Zzzz8 Batk4 Lepc1k Zzzz3",
    "Lepcf Zzzz3 Lepc3 Olck1c Cyrl9 Zzzz7 Geor17 Zzzz2 Geor3 Sund8 Zzzz8 Zinh3 Zyyy1 Zinhd Zyyy1",
    "Zinh7 Zyyy4 Zinh1 Zyyy6 Zinh1 Zyyy3 Zinh2 Zyyy1 Zzzz5 Latn12 Grek5 Cyrl1 Latn1d Grek5 Latn4",
    "Grek5 Latnd Cyrl1 Latn1y Grek1 Zinh1s Latn74 Grekm Zzzz2 Grek6 Zzzz2 Grek12 Zzzz2 Grek6",
    "Zzzz2 Grek8 Zzzz1 Grek1 Zzzz1 Grek1 Zzzz1 Grek1 Zzzz1 Grekv Zzzz2 Grek1h Zzzz1 Grekf Zzzz1",
    "Greke Zzzz2 Grek6 Zzzz1 Grekj Zzzz2 Grek3 Zzzz1 Grek9 Zzzz1 Zyyyc Zinh2 Zyyy2f Zzzz1 Zyyyb",
    "Latn1 Zzzz2 Zyyyb Latn1 Zyyyf Zzzz1 Latnd Zzzz3 Zyyyx Zzzzf Zinhx Zzzzf Zyyy12 Grek1 Zyyy3",
    "Latn2 Zyyy6 Latn1 Zyyyr Latn1 Zyyyh Latn15 Zyyy3 Zzzz4 Zyyyif Zzzzp Zyyyb Zzzzl Zyyyps",
    "Brai74 Zyyyhg Zzzz2 Zyyyw Zzzz1 Zyyy2x Glag2o Latnw Copt38 Zzzz5 Copt7 Geor12 Zzzz1 Geor1",
    "Zzzz5 Geor1 Zzzz2 Tfng1k Zzzz7 Tfng2 Zzzze Tfng1 Ethin Zzzz9 Ethi7 Zzzz1 Ethi7 Zzzz1 Ethi7",
    "Zzzz1 Ethi7 Zzzz1 Ethi7 Zzzz1 Ethi7 Zzzz1 Ethi7 Zzzz1 Ethi7 Zzzz1 Cyrlw Zyyy2m Zzzzy Haniq",
    "Zzzz1 Hani2h Zzzzc Hani5y Zzzzq Zyyyc Zzzz4 Zyyy5 Hani1 Zyyy1 Hani1 Zyyyp Hani9 Zinh4 Hang2",
    "Zyyy8 Hani4 Zyyy4 Zzzz1 Hira2e Zzzz2 Zinh2 Zyyy2 Hira3 Zyyy1 Kana2i Zyyy2 Kana3 Zzzz5 Bopo17",
    "Zzzz1 Hang2m Zzzz1 Zyyyg Bopow Zyyy10 Zzzzc Kanag Hangv Zzzz1 Zyyy1s Hangv Zyyy29 Kana1b",
    "Zyyy1 Kana2g Zyyy4o Hani534 Zyyy1s Hanig74 Yiiiwd Zzzz3 Yiii1j Zzzz9 Lisu1c Vaii8c Zzzzk",
    "Cyrl2o Bamu2g Zzzz8 Zyyyy Latn2u Zyyy3 Latn1s Zzzz5 Latn2 Zzzz1 Latn1 Zzzz1 Latn5 Zzzzo",
    "Latne Sylo19 Zzzz3 Zyyya Zzzz6 Phag1k Zzzz8 Saur1y Zzzz8 Saurc Zzzz6 Devaw Kali1a Zyyy1",
    "Kali1 Rjng10 Zzzzb Rjng1 Hangt Zzzz3 Java26 Zzzz1 Zyyy1 Javaa Zzzz4 Java2 Mymrv Zzzz1 Cham1j",
    "Zzzz9 Chame Zzzz2 Chama Zzzz2 Cham4 Mymrw Tavt1v Zzzzo Tavt5 Mtein Zzzza Ethi6 Zzzz2 Ethi6",
    "Zzzz2 Ethi6 Zzzz9 Ethi7 Zzzz1 Ethi7 Zzzz1 Latn17 Zyyy1 Latn9 Grek1 Latn4 Zyyy2 Zzzz4 Cher28",
    "Mtei1a Zzzz2 Mteia Zzzz6 Hang8mc Zzzzc Hangn Zzzz4 Hang1d Zzzz6is Hania6 Zzzz2 Hani2y Zzzz12",
    "Latn7 Zzzzc Armn5 Zzzz5 Hebrq Zzzz1 Hebr5 Zzzz1 Hebr1 Zzzz1 Hebr2 Zzzz1 Hebr2 Zzzz1 Hebra",
    "Arab37 Zzzzg Araba3 Zyyy2 Arab28 Zzzz2 Arab1i Zzzz7 Arab1 Zzzzw Arabg Zinhg Zyyya Zzzz6",
    "Zinhe Cyrl2 Zyyyz Zzzz1 Zyyyj Zzzz1 Zyyy4 Zzzz4 Arab5 Zzzz1 Arab3r Zzzz2 Zyyy1 Zzzz1 Zyyyw",
    "Latnq Zyyy6 Latnq Zyyyb Kanaa Zyyy1 Kana19 Zyyy2 Hangv Zzzz3 Hang6 Zzzz2 Hang6 Zzzz2 Hang6",
    "Zzzz2 Hang3 Zzzz3 Zyyy7 Zzzz1 Zyyy7 Zzzza Zyyy5 Zzzz2 Linbc Zzzz1 Linbq Zzzz1 Linbj Zzzz1",
    "Linb2 Zzzz1 Linbf Zzzz2 Linbe Zzzzy Linb3f Zzzz5 Zyyy3 Zzzz4 Zyyy19 Zzzz3 Zyyy9 Grek27 Zzzz1",
    "Zyyyd Zzzz3 Grek1 Zzzz1b Zyyy19 Zinh1 Zzzz3m Lycit Zzzz3 Cari1d Zzzzf Zinh1 Zyyyr Zzzz4",
    "Ital10 Zzzz9 Ital3 Gothr Zzzz5 Perm17 Zzzz5 Ugaru Zzzz1 Ugar1 Xpeo10 Zzzz4 Xpeoe Zzzz16",
    "Dsrt28 Shaw1c Osmau Zzzz2 Osmaa Zzzz6 Osge10 Zzzz4 Osge10 Zzzz4 Elba14 Zzzz8 Aghb1g Zzzzb",
    "Aghb1 Vithb Zzzz1 Vithf Zzzz1 Vith7 Zzzz1 Vith2 Zzzz1 Vithb Zzzz1 Vithf Zzzz1 Vith7 Zzzz1",
    "Vith2 Zzzz1v Lina8n Zzzz9 Linam Zzzza Lina8 Zzzzo Latn6 Zzzz1 Latn16 Zzzz1 Latn9 Zzzz1x",
    "Cprt6 Zzzz2 Cprt1 Zzzz1 Cprt18 Zzzz1 Cprt2 Zzzz3 Cprt1 Zzzz2 Cprt1 Armim Zzzz1 Armi9 Palmw",
    "Nbatv Zzzz8 Nbat9 Zzzz1c Hatrj Zzzz1 Hatr2 Zzzz5 Hatr5 Phnxs Zzzz3 Phnx1 Lydiq Zzzz5 Lydi1",
    "Zzzz1s Merow Merco Zzzz4 Merck Zzzz2 Merc1a Khar4 Zzzz1 Khar2 Zzzz5 Khar8 Zzzz1 Khar3 Zzzz1",
    "Khart Zzzz2 Khar3 Zzzz4 Khara Zzzz7 Khar9 Zzzz7 Sarbw Narbw Zzzzw Mani13 Zzzz4 Manic Zzzz9",
    "Avst1i Zzzz3 Avst7 Prtim Zzzz2 Prti8 Phlij Zzzz5 Phli8 Phlpi Zzzz7 Phlp4 Zzzzc Phlp7 Zzzz28",
    "Orkh21 Zzzz1j Hung1f Zzzzd Hung1f Zzzz7 Hung6 Rohg14 Zzzz8 Rohga Zzzz86 Arabv Zzzz1 Yezi16",
    "Zzzz1 Yezi3 Zzzz2 Yezi2 Zzzz23 Arab3 Sogo14 Zzzz8 Sogd16 Zzzzm Ougrq Zzzz12 Chrss Zzzzk",
    "Elymn Zzzz9 Brah26 Zzzz4 Brah10 Zzzz9 Brah1 Kthi1v Zzzza Kthi1 Zzzz2 Sorap Zzzz7 Soraa Zzzz6",
    "Cakm1h Zzzz1 Cakmi Zzzz8 Mahj13 Zzzz9 Shrd2o Zzzz1 Sinhk Zzzzb Khoji Zzzz1 Khoj1b Zzzz1q",
    "Mult7 Zzzz1 Mult1 Zzzz1 Mult4 Zzzz1 Multf Zzzz1 Multb Zzzz6 Sind1n Zzzz5 Sinda Zzzz6 Gran4",
    "Zzzz1 Gran8 Zzzz2 Gran2 Zzzz2 Granm Zzzz1 Gran7 Zzzz1 Gran2 Zzzz1 Gran5 Zzzz1 Zinh1 Gran9",
    "Zzzz2 Gran2 Zzzz2 Gran3 Zzzz2 Gran1 Zzzz6 Gran1 Zzzz5 Gran7 Zzzz2 Gran7 Zzzz3 Gran5 Zzzz3v",
    "Newa2k Zzzz1 Newa5 Zzzzu Tirh20 Zzzz8 Tirha Zzzz4m Sidd1i Zzzz2 Sidd12 Zzzzy Modi1x Zzzzb",
    "Modia Zzzz6 Mongd Zzzzj Takr1m Zzzz6 Takra Zzzz1i Ahomr Zzzz2 Ahomf Zzzz4 Ahomn Zzzz55",
    "Dogr1o Zzzz2s Wara2b Zzzzc Wara1 Diak7 Zzzz2 Diak1 Zzzz2 Diak8 Zzzz1 Diak2 Zzzz1 Diaku Zzzz1",
    "Diak2 Zzzz2 Diakc Zzzz9 Diaka Zzzz1y Nand8 Zzzz2 Nand1a Zzzz2 Nandb Zzzzr Zanb20 Zzzz8",
    "Soyo2b Zzzzd Cansg Pauc1l Zzzz7 Devaa Zzzz6u Bhks9 Zzzz1 Bhks19 Zzzz1 Bhkse Zzzza Bhkst",
    "Zzzz3 Marcw Zzzz2 Marcm Zzzz1 Marce Zzzz21 Gonm7 Zzzz1 Gonm2 Zzzz1 Gonm18 Zzzz3 Gonm1 Zzzz1",
    "Gonm2 Zzzz1 Gonm9 Zzzz8 Gonma Zzzz6 Gong6 Zzzz1 Gong2 Zzzz1 Gong11 Zzzz1 Gong2 Zzzz1 Gong6",
    "Zzzz7 Gonga Zzzz8m Makap Zzzz7 Kawih Zzzz1 Kawi15 Zzzz3 Kawis Zzzz2e Lisu1 Zzzzf Taml1e",
    "Zzzzd Taml1 Xsuxpm Zzzz2u Xsux33 Zzzz1 Xsux5 Zzzzb Xsux5g Zzzz218 Cpmn2r Zzzzd Egypuu",
    "Zzzz33e Hluwg7 Zzzz6nt Bamuft Zzzz7 Mroov Zzzz1 Mrooa Zzzz4 Mroo2 Tnsa27 Zzzz1 Tnsaa Zzzz6",
    "Bassu Zzzz2 Bass6 Zzzza Hmng1y Zzzza Hmnga Zzzz1 Hmng7 Zzzz1 Hmngl Zzzz5 Hmngj Zzzzj4 Medf2j",
    "Zzzz2t Plrd23 Zzzz4 Plrd1l Zzzz7 Plrdh Zzzz1s Tang1 Nshu1 Hani2 Kits1 Zzzzb Hani2 Zzzze",
    "Tang4qg Zzzz8 Tanglc Kitsd2 Zzzz16 Tang9 Zzzz6w7 Kana4 Zzzz1 Kana7 Zzzz1 Kana2 Zzzz1 Kana1",
    "Hira7z Kana3 Zzzzf Hira1 Zzzzt Hira3 Zzzz2 Kana1 Zzzze Kana4 Zzzz8 Nshub0 Zzzz1s4 Dupl2z",
    "Zzzz5 Dupld Zzzz3 Dupl9 Zzzz7 Dupla Zzzz2 Dupl4 Zyyy4 Zzzz3mk Zinh1a Zzzz2 Zinhn Zzzz9",
    "Zyyy38 Zzzz1o Zyyy6u Zzzza Zyyy13 Zzzz2 Zyyy1q Zinh3 Zyyyh Zinh8 Zyyy2 Zinh7 Zyyyu Zinh4",
    "Zyyy1p Zzzzl Grek1y Zzzz3e Zyyyk Zzzzc Zyyyk Zzzzc Zyyy2f Zzzz9 Zyyyp Zzzz3r Zyyy2d Zzzz1",
    "Zyyy1z Zzzz1 Zyyy2 Zzzz2 Zyyy1 Zzzz2 Zyyy2 Zzzz2 Zyyy4 Zzzz1 Zyyyc Zzzz1 Zyyy1 Zzzz1 Zyyy7",
    "Zzzz1 Zyyy1t Zzzz1 Zyyy4 Zzzz2 Zyyy8 Zzzz1 Zyyy7 Zzzz1 Zyyys Zzzz1 Zyyy4 Zzzz1 Zyyy5 Zzzz1",
    "Zyyy1 Zzzz3 Zyyy7 Zzzz1 Zyyy9g Zzzz2 Zyyy84 Zzzz2 Zyyy1e Sgnwi4 Zzzzf Sgnw5 Zzzz1 Sgnwf",
    "Zzzzuo Latnv Zzzz6 Latn6 Zzzz5x Glag7 Zzzz1 Glagh Zzzz2 Glag7 Zzzz1 Glag2 Zzzz1 Glag5 Zzzz5",
    "Cyrl1q Zzzzx Cyrl1 Zzzz34 Hmnp19 Zzzz3 Hmnpe Zzzz2 Hmnpa Zzzz4 Hmnp2 Zzzz8w Totov Zzzzh",
    "Wcho1m Zzzz5 Wcho1 Zzzzcw Nagm16 Zzzzkm Ethi7 Zzzz1 Ethi4 Zzzz1 Ethi2 Zzzz1 Ethif Zzzz1",
    "Mend5h Zzzz2 Mendg Zzzz15 Adlm24 Zzzz4 Adlma Zzzz4 Adlm2 Zzzzlt Zyyy1w Zzzz24 Zyyy1p Zzzz5e",
    "Arab4 Zzzz1 Arabr Zzzz1 Arab2 Zzzz1 Arab1 Zzzz2 Arab1 Zzzz1 Araba Zzzz1 Arab4 Zzzz1 Arab1",
    "Zzzz1 Arab1 Zzzz6 Arab1 Zzzz4 Arab1 Zzzz1 Arab1 Zzzz1 Arab1 Zzzz1 Arab3 Zzzz1 Arab2 Zzzz1",
    "Arab1 Zzzz2 Arab1 Zzzz1 Arab1 Zzzz1 Arab1 Zzzz1 Arab1 Zzzz1 Arab1 Zzzz1 Arab2 Zzzz1 Arab1",
    "Zzzz2 Arab4 Zzzz1 Arab7 Zzzz1 Arab4 Zzzz1 Arab4 Zzzz1 Arab1 Zzzz1 Araba Zzzz1 Arabh Zzzz5",
    "Arab3 Zzzz1 Arab5 Zzzz1 Arabh Zzzz1g Arab2 Zzzz7i Zyyy18 Zzzz4 Zyyy2s Zzzzc Zyyyf Zzzz2",
    "Zyyyf Zzzz1 Zyyyf Zzzz1 Zyyy11 Zzzza Zyyy4u Zzzz1k Zyyyq Hira1 Zyyy2 Zzzzd Zyyy18 Zzzz4",
    "Zyyy9 Zzzz7 Zyyy2 Zzzze Zyyy6 Zzzz4a Zyyyrc Zzzz4 Zyyyh Zzzz3 Zyyyd Zzzz3 Zyyy3b Zzzz4",
    "Zyyy2n Zzzz6 Zyyyc Zzzz4 Zyyy1 Zzzzf Zyyyc Zzzz4 Zyyy1k Zzzz8 Zyyya Zzzz6 Zyyy14 Zzzz8 Zyyyu",
    "Zzzz2 Zyyy2 Zzzz26 Zyyy9g Zzzzc Zyyye Zzzz2 Zyyyd Zzzz3 Zyyy9 Zzzz7 Zyyy1a Zzzz1 Zyyy7 Zzzz8",
    "Zyyye Zzzz4 Zyyy9 Zzzz7 Zyyy9 Zzzz7 Zyyy43 Zzzz1 Zyyy1j Zzzz11 Zyyya Zzzzsm Haniwyo Zzzzw",
    "Hani37e Zzzz6 Hani66 Zzzz2 Hani4g2 Zzzze Hani5rl Zzzz2e7 Hanif2 Zzzz15u Hani3t7 Zzzz5",
    "Hani38g Zzzzf975 Zyyy1 Zzzzu Zyyy2o Zzzz3k Zinh6o Zzzz47bk Zzzz0"]

/-- The runs of the scripts. -/
def scriptRuns : List Run := Run.ofLines 4 scriptLines

/-- The script of a character. -/
def script (character : Char) : String := Run.kindAt scriptRuns character.toNat

/-- The scripts that names in small letters stand for. -/
def scriptNames : List (List String × String) :=
  [(["adlm", "adlam"], "Adlm"), (["aghb", "caucasianalbanian"], "Aghb"), (["ahom"], "Ahom"),
    (["arab", "arabic"], "Arab"), (["armi", "imperialaramaic"], "Armi"),
    (["armn", "armenian"], "Armn"), (["avst", "avestan"], "Avst"), (["bali", "balinese"], "Bali"),
    (["bamu", "bamum"], "Bamu"), (["bass", "bassavah"], "Bass"), (["batk", "batak"], "Batk"),
    (["beng", "bengali"], "Beng"), (["bhks", "bhaiksuki"], "Bhks"), (["bopo", "bopomofo"], "Bopo"),
    (["brah", "brahmi"], "Brah"), (["brai", "braille"], "Brai"), (["bugi", "buginese"], "Bugi"),
    (["buhd", "buhid"], "Buhd"), (["cakm", "chakma"], "Cakm"),
    (["cans", "canadianaboriginal"], "Cans"), (["cari", "carian"], "Cari"), (["cham"], "Cham"),
    (["cher", "cherokee"], "Cher"), (["chrs", "chorasmian"], "Chrs"),
    (["copt", "coptic", "qaac"], "Copt"), (["cpmn", "cyprominoan"], "Cpmn"),
    (["cprt", "cypriot"], "Cprt"), (["cyrl", "cyrillic"], "Cyrl"), (["deva", "devanagari"], "Deva"),
    (["diak", "divesakuru"], "Diak"), (["dogr", "dogra"], "Dogr"), (["dsrt", "deseret"], "Dsrt"),
    (["dupl", "duployan"], "Dupl"), (["egyp", "egyptianhieroglyphs"], "Egyp"),
    (["elba", "elbasan"], "Elba"), (["elym", "elymaic"], "Elym"), (["ethi", "ethiopic"], "Ethi"),
    (["geor", "georgian"], "Geor"), (["glag", "glagolitic"], "Glag"),
    (["gong", "gunjalagondi"], "Gong"), (["gonm", "masaramgondi"], "Gonm"),
    (["goth", "gothic"], "Goth"), (["gran", "grantha"], "Gran"), (["grek", "greek"], "Grek"),
    (["gujr", "gujarati"], "Gujr"), (["guru", "gurmukhi"], "Guru"), (["hang", "hangul"], "Hang"),
    (["hani", "han"], "Hani"), (["hano", "hanunoo"], "Hano"), (["hatr", "hatran"], "Hatr"),
    (["hebr", "hebrew"], "Hebr"), (["hira", "hiragana"], "Hira"),
    (["hluw", "anatolianhieroglyphs"], "Hluw"), (["hmng", "pahawhhmong"], "Hmng"),
    (["hmnp", "nyiakengpuachuehmong"], "Hmnp"), (["hung", "oldhungarian"], "Hung"),
    (["ital", "olditalic"], "Ital"), (["java", "javanese"], "Java"), (["kali", "kayahli"], "Kali"),
    (["kana", "katakana"], "Kana"), (["kawi"], "Kawi"), (["khar", "kharoshthi"], "Khar"),
    (["khmr", "khmer"], "Khmr"), (["khoj", "khojki"], "Khoj"),
    (["kits", "khitansmallscript"], "Kits"), (["knda", "kannada"], "Knda"),
    (["kthi", "kaithi"], "Kthi"), (["lana", "taitham"], "Lana"), (["laoo", "lao"], "Laoo"),
    (["latn", "latin"], "Latn"), (["lepc", "lepcha"], "Lepc"), (["limb", "limbu"], "Limb"),
    (["lina", "lineara"], "Lina"), (["linb", "linearb"], "Linb"), (["lisu"], "Lisu"),
    (["lyci", "lycian"], "Lyci"), (["lydi", "lydian"], "Lydi"), (["mahj", "mahajani"], "Mahj"),
    (["maka", "makasar"], "Maka"), (["mand", "mandaic"], "Mand"), (["mani", "manichaean"], "Mani"),
    (["marc", "marchen"], "Marc"), (["medf", "medefaidrin"], "Medf"),
    (["mend", "mendekikakui"], "Mend"), (["merc", "meroiticcursive"], "Merc"),
    (["mero", "meroitichieroglyphs"], "Mero"), (["mlym", "malayalam"], "Mlym"), (["modi"], "Modi"),
    (["mong", "mongolian"], "Mong"), (["mroo", "mro"], "Mroo"), (["mtei", "meeteimayek"], "Mtei"),
    (["mult", "multani"], "Mult"), (["mymr", "myanmar"], "Mymr"), (["nagm", "nagmundari"], "Nagm"),
    (["nand", "nandinagari"], "Nand"), (["narb", "oldnortharabian"], "Narb"),
    (["nbat", "nabataean"], "Nbat"), (["newa"], "Newa"), (["nkoo", "nko"], "Nkoo"),
    (["nshu", "nushu"], "Nshu"), (["ogam", "ogham"], "Ogam"), (["olck", "olchiki"], "Olck"),
    (["orkh", "oldturkic"], "Orkh"), (["orya", "oriya"], "Orya"), (["osge", "osage"], "Osge"),
    (["osma", "osmanya"], "Osma"), (["ougr", "olduyghur"], "Ougr"), (["palm", "palmyrene"], "Palm"),
    (["pauc", "paucinhau"], "Pauc"), (["perm", "oldpermic"], "Perm"), (["phag", "phagspa"], "Phag"),
    (["phli", "inscriptionalpahlavi"], "Phli"), (["phlp", "psalterpahlavi"], "Phlp"),
    (["phnx", "phoenician"], "Phnx"), (["plrd", "miao"], "Plrd"),
    (["prti", "inscriptionalparthian"], "Prti"), (["rjng", "rejang"], "Rjng"),
    (["rohg", "hanifirohingya"], "Rohg"), (["runr", "runic"], "Runr"),
    (["samr", "samaritan"], "Samr"), (["sarb", "oldsoutharabian"], "Sarb"),
    (["saur", "saurashtra"], "Saur"), (["sgnw", "signwriting"], "Sgnw"),
    (["shaw", "shavian"], "Shaw"), (["shrd", "sharada"], "Shrd"), (["sidd", "siddham"], "Sidd"),
    (["sind", "khudawadi"], "Sind"), (["sinh", "sinhala"], "Sinh"), (["sogd", "sogdian"], "Sogd"),
    (["sogo", "oldsogdian"], "Sogo"), (["sora", "sorasompeng"], "Sora"),
    (["soyo", "soyombo"], "Soyo"), (["sund", "sundanese"], "Sund"),
    (["sylo", "sylotinagri"], "Sylo"), (["syrc", "syriac"], "Syrc"), (["tagb", "tagbanwa"], "Tagb"),
    (["takr", "takri"], "Takr"), (["tale", "taile"], "Tale"), (["talu", "newtailue"], "Talu"),
    (["taml", "tamil"], "Taml"), (["tang", "tangut"], "Tang"), (["tavt", "taiviet"], "Tavt"),
    (["telu", "telugu"], "Telu"), (["tfng", "tifinagh"], "Tfng"), (["tglg", "tagalog"], "Tglg"),
    (["thaa", "thaana"], "Thaa"), (["thai"], "Thai"), (["tibt", "tibetan"], "Tibt"),
    (["tirh", "tirhuta"], "Tirh"), (["tnsa", "tangsa"], "Tnsa"), (["toto"], "Toto"),
    (["ugar", "ugaritic"], "Ugar"), (["vaii", "vai"], "Vaii"), (["vith", "vithkuqi"], "Vith"),
    (["wara", "warangciti"], "Wara"), (["wcho", "wancho"], "Wcho"),
    (["xpeo", "oldpersian"], "Xpeo"), (["xsux", "cuneiform"], "Xsux"), (["yezi", "yezidi"], "Yezi"),
    (["yiii", "yi"], "Yiii"), (["zanb", "zanabazarsquare"], "Zanb"),
    (["zinh", "inherited", "qaai"], "Zinh"), (["zyyy", "common"], "Zyyy")]

/-- The script that a name stands for. -/
def scriptOf? (name : String) : Option String :=
  (scriptNames.find? fun entry => entry.1.contains name).map Prod.snd

end ChatGateway.Text
